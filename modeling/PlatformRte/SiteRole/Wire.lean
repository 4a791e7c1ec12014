import PlatformRte.Dual.Calls
import PlatformRte.Dual.Newest
import PlatformRte.SiteRole.Service

/-! A site-role channel with the dual channel and the checksum module under it. What the
channel is answered by its link is here what the calls of the layers below return; a call
that has not returned on the answers it is given is none. -/
namespace PlatformRte.SiteRole
open PlatformRte.Dual PlatformRte.Dual.Channel PlatformRte.Dual.Listening Checksum Bytes

structure Medium where
  channel : DualChannel
  manager : ChecksumManager

/- The contents of the wire say something only while the link is open. -/
structure Station where
  rs : RteSiteRole
  ackTimeoutMs : UInt32
  wire : Medium

structure RoundIo where
  beacon : Answer
  reads : List Answer
  clock : Nat → UInt64

structure CycleIo where
  siblingFrame : Option SiteRoleSibling
  draw : Option Bytes
  reopen : OpenAnswer
  round : RoundIo
  region : Bytes
  send : List Answer
  receive : Answer
  accepted : Bool

structure BootIo where
  nowMs : UInt64
  siblingFrame : Option SiteRoleSibling
  opens : List RteStatus
  initNowMs : UInt64
  rounds : List RoundIo

def ownFrame (rs : RteSiteRole) (region : Bytes) : Bytes :=
  encodeFrame rs.cfg.frameSize rs.localFaulted rs.localSingleMode rs.cycle rs.online region

namespace Station

def initChannel (s : Station) : Station :=
  match Channel.dualChannelInit ⟨[true], 1, s.rs.cfg.ownId, s.rs.cfg.peerId, s.ackTimeoutMs, false⟩ with
  | .ok channel => { s with wire := { s.wire with channel := dualChannelSetResync channel true } }
  | .error _ => s

def ensureLink (s : Station) (answer : OpenAnswer) : Station × Bool :=
  let linked := SiteRole.ensureLink s.rs answer
  ({ (if linked.2 && !s.rs.link then s.initChannel else s) with rs := linked.1 }, linked.2)

def negotiate (s : Station) (io : RoundIo) : Option Station :=
  (Listening.execute s.rs.negotiator ⟨s.wire.channel, s.wire.manager, fun _ => io.reads⟩ io.clock fun _ => io.beacon).map
    fun after =>
      { s with
        rs := { s.rs with negotiator := after.1 }
        wire := ⟨after.2.channel, after.2.manager⟩ }

def send (s : Station) (frame : Bytes) (answers : List Answer) : Option (Station × RteStatus) :=
  match runCall s.wire.channel s.wire.manager (.send frame) answers with
  | some ⟨channel, manager, .exchange _ status _ _⟩ => some ({ s with wire := ⟨channel, manager⟩ }, status)
  | _ => none

def sendFrame (s : Station) (region : Bytes) (answers : List Answer) : Option (Station × RteStatus) :=
  s.send (ownFrame s.rs region) answers

def receive (s : Station) (answer : Answer) (accepted : Bool) : Option (Station × ReceiveAnswer) :=
  match runCall s.wire.channel s.wire.manager (.receive (UInt8.ofNat s.rs.cfg.frameSize)) [answer] with
  | some ⟨channel, manager, .receive status payload⟩ =>
      some ({ s with wire := ⟨channel, manager⟩ }, ⟨status, payload.getD [], accepted⟩)
  | _ => none

def prepare (s : Station) (cycle : UInt32) (own : SiteRoleLocal) (io : CycleIo) : Station :=
  let polled := pollSiblingSource (takeLocal { s.rs with cycle := cycle } own) cycle io.siblingFrame
  { s with rs := refreshChallenge polled cycle io.draw }

def linked (s : Station) (cycle : UInt32) (own : SiteRoleLocal) (io : CycleIo) : Station × Bool :=
  (s.prepare cycle own io).ensureLink io.reopen

/- The second value is the status of the frame's send, if the cycle came to it. -/
def execute (s : Station) (cycle : UInt32) (own : SiteRoleLocal) (io : CycleIo) :
    Option (Station × Option RteStatus) :=
  let linked := s.linked cycle own io
  if linked.2 then do
    let s ← linked.1.negotiate io.round
    let sent ← s.sendFrame io.region io.send
    let received ← sent.1.receive io.receive io.accepted
    some ({ received.1 with rs := siteRoleExecuteFinish received.1.rs own (decide (sent.2 = .ok)) received.2 },
      some sent.2)
  else some ({ linked.1 with rs := checkSiblingAfterDecision (runSiteRoleDecision linked.1.rs own) own }, none)

-- A read without an answer finds nothing, but what is staged is still taken.
def drainLink (s : Station) : Nat → List (Answer × Bool) → Option Station
  | 0, _ => some s
  | n + 1, reads => do
      let answer := reads.headD (silence, false)
      let received ← s.receive answer.1 answer.2
      let taken := receiveFrame received.1.rs received.2
      let s := { received.1 with rs := taken.1 }
      if taken.2 = .ok then s.drainLink n reads.tail else some s

def serviceLink (s : Station) (cycle : UInt32) (reads : List (Answer × Bool)) : Option Station :=
  if s.rs.link then drainLink { s with rs := { s.rs with cycle := cycle } } serviceDrain reads else some s

def syncStandby (s : Station) (cycle : UInt32) (own : SiteRoleLocal) (region : Bytes) (answers : List Answer) :
    Option (Station × Option RteStatus) :=
  match siteRoleSyncStandby s.rs cycle own region .timeout with
  | (rs, none) => some ({ s with rs := rs }, none)
  | (_, some frame) =>
      (s.send frame answers).map fun sent =>
        ({ sent.1 with rs := (siteRoleSyncStandby s.rs cycle own region sent.2).1 }, some sent.2)

def flushFaulted (s : Station) (singleMode : Bool) (region : Bytes) (answers : List Answer) :
    Option (Station × Option RteStatus) :=
  match siteRoleFlushFaulted s.rs singleMode region with
  | none => some (s, none)
  | some frame => (s.send frame answers).map fun sent => (sent.1, some sent.2)

def negotiateRounds (s : Station) (waitedMs : UInt32) : List RoundIo → Option Station
  | [] => none
  | io :: rest => do
      let next ← s.negotiate io
      if next.rs.negotiator.ownState = .idle ∧ waitedMs + s.rs.cfg.linkPollMs < s.rs.cfg.startupTimeoutMs then
        next.negotiateRounds (waitedMs + s.rs.cfg.linkPollMs) rest
      else some next

def startNegotiation (s : Station) (resumeStandby : Bool) (io : BootIo) : Option (Station × RteStatus) := do
  let ready := initChannelAndNegotiator s.rs resumeStandby io.initNowMs
  if ready.2 ≠ .ok then return ({ s with rs := closeLink ready.1 }, ready.2)
  let s ← negotiateRounds { s.initChannel with rs := ready.1 } 0 io.rounds
  if s.rs.negotiator.ownState = .idle then return ({ s with rs := closeLink s.rs }, .timeout)
  return ({ s with rs := { s.rs with online := decide (s.rs.negotiator.ownState = .online) } }, .ok)

def start (s : Station) (io : BootIo) : Option (Station × RteStatus) := do
  let joined := startupRoleFromSibling (pollSiblingSource (startReset s.rs io.nowMs) 0 io.siblingFrame)
  let opened ← openLinkBlocking joined.1 io.opens
  if opened.2 ≠ .ok then return ({ s with rs := opened.1 }, opened.2)
  startNegotiation { s with rs := opened.1 } joined.2 io

def aside (s : Station) (call : SiteRoleCall) : Option (Station × Option RteStatus) :=
  some ({ s with rs := siteRoleCall s.rs call }, none)

end Station

inductive StationCall where
  | start (io : BootIo)
  | execute (cycle : UInt32) (own : SiteRoleLocal) (io : CycleIo)
  | serviceLink (cycle : UInt32) (reads : List (Answer × Bool))
  | syncStandby (cycle : UInt32) (own : SiteRoleLocal) (region : Bytes) (answers : List Answer)
  | onTakeoverConfirm (cycle : UInt32)
  | onTakeoverToken (cycle : UInt32) (token : Bytes) (draw : Option Bytes)
  | noteLostContact
  | flushFaulted (singleMode : Bool) (region : Bytes) (answers : List Answer)
  | checkSibling (ownSingleMode : Bool) (sibling : SiteRoleSibling)
  | shutdown

namespace Station

def call (s : Station) : StationCall → Option (Station × Option RteStatus)
  | .start io => (s.start io).map fun started => (started.1, none)
  | .execute cycle own io =>
      (s.execute cycle own io).map fun done =>
        ({ done.1 with rs := { done.1.rs with tokenLog := .executed cycle :: done.1.rs.tokenLog } }, done.2)
  | .serviceLink cycle reads => (s.serviceLink cycle reads).map fun served => (served, none)
  | .syncStandby cycle own region answers => s.syncStandby cycle own region answers
  | .onTakeoverConfirm cycle => s.aside (.onTakeoverConfirm cycle)
  | .onTakeoverToken cycle token draw => s.aside (.onTakeoverToken cycle token draw)
  | .noteLostContact => s.aside .noteLostContact
  | .flushFaulted singleMode region answers => s.flushFaulted singleMode region answers
  | .checkSibling ownSingleMode sibling => s.aside (.checkSibling ownSingleMode sibling)
  | .shutdown => s.aside .shutdown

theorem sendSame {s s' : Station} {frame : Bytes} {answers : List Answer} {status : RteStatus}
    (sent : s.send frame answers = some (s', status)) : s'.rs = s.rs ∧ s'.ackTimeoutMs = s.ackTimeoutMs := by
  unfold send at sent
  split at sent
  · cases sent
    exact ⟨rfl, rfl⟩
  · cases sent

theorem receiveSame {s s' : Station} {answer : Answer} {accepted : Bool} {received : ReceiveAnswer}
    (done : s.receive answer accepted = some (s', received)) : s'.rs = s.rs ∧ s'.ackTimeoutMs = s.ackTimeoutMs := by
  unfold receive at done
  split at done
  · cases done
    exact ⟨rfl, rfl⟩
  · cases done

theorem negotiateRefines {s s' : Station} {io : RoundIo} (done : s.negotiate io = some s') :
    s'.ackTimeoutMs = s.ackTimeoutMs ∧ ∃ heard, s'.rs = SiteRole.negotiate s.rs heard := by
  obtain ⟨after, executed, rfl⟩ := Option.map_eq_some_iff.mp done
  obtain ⟨_, frames, nowMs, read, same, reads⟩ := executeReads s.rs.negotiator
    ⟨s.wire.channel, s.wire.manager, fun _ => io.reads⟩ io.clock fun _ => io.beacon
  rw [same] at executed
  cases executed
  exact ⟨rfl, ⟨s.wire.channel.lastStatus, frames, nowMs⟩, by rw [reads.negotiator]; rfl⟩

theorem executeRefines {s s' : Station} {cycle : UInt32} {own : SiteRoleLocal} {io : CycleIo} {sent : Option RteStatus}
    (done : s.execute cycle own io = some (s', sent)) : ∃ answers, s'.rs = siteRoleExecute s.rs cycle own answers := by
  unfold execute at done
  dsimp only at done
  cases up : (s.linked cycle own io).2 with
  | false =>
    rw [up] at done
    cases done
    refine ⟨⟨io.siblingFrame, io.draw, io.reopen, ⟨.down, [], 0⟩, [], .ok, ⟨.ok, [], false⟩⟩, ?_⟩
    have closed : (SiteRole.ensureLink (prepareCycle s.rs cycle own
        ⟨io.siblingFrame, io.draw, io.reopen, ⟨.down, [], 0⟩, [], .ok, ⟨.ok, [], false⟩⟩) io.reopen).2 = false := up
    simp only [siteRoleExecute, siteRoleExecuteBegin, closed, Bool.false_eq_true, if_false]
    rfl
  | true =>
    rw [up, if_pos rfl] at done
    obtain ⟨negotiated, heard, rest⟩ := Option.bind_eq_some_iff.mp done
    obtain ⟨⟨sent_, status⟩, sending, rest⟩ := Option.bind_eq_some_iff.mp rest
    obtain ⟨⟨received, answer⟩, receiving, last⟩ := Option.bind_eq_some_iff.mp rest
    cases last
    obtain ⟨_, beacons, same⟩ := negotiateRefines heard
    have kept := (receiveSame receiving).1.trans (sendSame sending).1
    refine ⟨⟨io.siblingFrame, io.draw, io.reopen, beacons, io.region, status, answer⟩, ?_⟩
    have open_ : (SiteRole.ensureLink (prepareCycle s.rs cycle own
        ⟨io.siblingFrame, io.draw, io.reopen, beacons, io.region, status, answer⟩) io.reopen).2 = true := up
    simp only [siteRoleExecute, siteRoleExecuteBegin, open_, if_true]
    rw [kept, same]
    rfl

theorem drainRefines {s s' : Station} {n : Nat} {reads : List (Answer × Bool)} (done : s.drainLink n reads = some s') :
    ∃ answers, s'.rs = SiteRole.drainLink s.rs n answers := by
  induction n generalizing s reads with
  | zero =>
    cases done
    exact ⟨[], rfl⟩
  | succ n ih =>
    obtain ⟨⟨received, answer⟩, receiving, rest⟩ := Option.bind_eq_some_iff.mp done
    dsimp only at rest
    rw [(receiveSame receiving).1] at rest
    by_cases more : (receiveFrame s.rs answer).2 = .ok
    · rw [if_pos more] at rest
      obtain ⟨answers, same⟩ := ih rest
      exact ⟨answer :: answers, by simp only [SiteRole.drainLink, if_pos more]; exact same⟩
    · rw [if_neg more] at rest
      cases rest
      exact ⟨[answer], by simp only [SiteRole.drainLink, if_neg more]⟩

theorem serviceRefines {s s' : Station} {cycle : UInt32} {reads : List (Answer × Bool)}
    (done : s.serviceLink cycle reads = some s') : ∃ answers, s'.rs = siteRoleServiceLink s.rs cycle answers := by
  unfold serviceLink at done
  by_cases up : s.rs.link = true
  · rw [if_pos up] at done
    obtain ⟨answers, same⟩ := drainRefines done
    exact ⟨answers, by rw [siteRoleServiceLink, if_pos up]; exact same⟩
  · rw [if_neg up] at done
    cases done
    exact ⟨[], by rw [siteRoleServiceLink, if_neg up]⟩

theorem syncRefines {s s' : Station} {cycle : UInt32} {own : SiteRoleLocal} {region : Bytes} {answers : List Answer}
    {sent : Option RteStatus} (done : s.syncStandby cycle own region answers = some (s', sent)) :
    ∃ status, s'.rs = (siteRoleSyncStandby s.rs cycle own region status).1 := by
  unfold syncStandby at done
  split at done
  · rename_i idle
    cases done
    exact ⟨.timeout, by rw [idle]⟩
  · obtain ⟨⟨_, status⟩, _, same⟩ := Option.map_eq_some_iff.mp done
    cases same
    exact ⟨status, rfl⟩

theorem flushSame {s s' : Station} {singleMode : Bool} {region : Bytes} {answers : List Answer}
    {sent : Option RteStatus} (done : s.flushFaulted singleMode region answers = some (s', sent)) : s'.rs = s.rs := by
  unfold flushFaulted at done
  split at done
  · cases done
    rfl
  · obtain ⟨⟨_, _⟩, sending, same⟩ := Option.map_eq_some_iff.mp done
    cases same
    exact (sendSame sending).1

theorem roundsRefine {s s' : Station} {waitedMs : UInt32} {rounds : List RoundIo}
    (done : s.negotiateRounds waitedMs rounds = some s') :
    ∃ heard, SiteRole.negotiateRounds s.rs waitedMs heard = some s'.rs := by
  induction rounds generalizing s waitedMs with
  | nil => cases done
  | cons io rest ih =>
    obtain ⟨next, negotiated, rest_⟩ := Option.bind_eq_some_iff.mp done
    obtain ⟨_, beacons, same⟩ := negotiateRefines negotiated
    rw [same] at rest_
    by_cases more : (SiteRole.negotiate s.rs beacons).negotiator.ownState = .idle ∧
        waitedMs + s.rs.cfg.linkPollMs < s.rs.cfg.startupTimeoutMs
    · rw [if_pos more] at rest_
      obtain ⟨heard, ran⟩ := ih rest_
      rw [same] at ran
      exact ⟨beacons :: heard, by simp only [SiteRole.negotiateRounds, if_pos more]; exact ran⟩
    · rw [if_neg more] at rest_
      cases rest_
      exact ⟨[beacons], by simp only [SiteRole.negotiateRounds, if_neg more, same]⟩

theorem negotiationRefines {s s' : Station} {resumeStandby : Bool} {io : BootIo} {status : RteStatus}
    (done : s.startNegotiation resumeStandby io = some (s', status)) :
    ∃ heard, SiteRole.startNegotiation s.rs resumeStandby
      ⟨io.nowMs, io.siblingFrame, io.opens, io.initNowMs, heard⟩ = some (s'.rs, status) := by
  unfold startNegotiation at done
  unfold SiteRole.startNegotiation
  dsimp only at done ⊢
  by_cases failed : (initChannelAndNegotiator s.rs resumeStandby io.initNowMs).2 ≠ .ok
  · rw [if_pos failed] at done
    cases done
    exact ⟨[], by rw [if_pos failed]; rfl⟩
  · rw [if_neg failed] at done
    obtain ⟨settled, negotiated, rest⟩ := Option.bind_eq_some_iff.mp done
    obtain ⟨heard, ran⟩ := roundsRefine negotiated
    refine ⟨heard, ?_⟩
    rw [if_neg failed]
    refine Option.bind_eq_some_iff.mpr ⟨settled.rs, ran, ?_⟩
    split at rest
    · rename_i idle
      cases rest
      rw [if_pos idle]
      rfl
    · rename_i decided
      cases rest
      rw [if_neg decided]
      rfl

theorem startRefines {s s' : Station} {io : BootIo} {status : RteStatus} (done : s.start io = some (s', status)) :
    ∃ answers, siteRoleStart s.rs answers = some (s'.rs, status) := by
  obtain ⟨opened, opening, rest⟩ := Option.bind_eq_some_iff.mp done
  have begins : ∀ heard, siteRoleStart s.rs ⟨io.nowMs, io.siblingFrame, io.opens, io.initNowMs, heard⟩ =
      if opened.2 ≠ .ok then some opened
      else SiteRole.startNegotiation opened.1
        (startupRoleFromSibling (pollSiblingSource (startReset s.rs io.nowMs) 0 io.siblingFrame)).2
        ⟨io.nowMs, io.siblingFrame, io.opens, io.initNowMs, heard⟩ := by
    intro heard
    simp only [siteRoleStart, opening, Option.bind_eq_bind, Option.bind_some]
    rfl
  by_cases failed : opened.2 ≠ .ok
  · rw [if_pos failed] at rest
    cases rest
    exact ⟨⟨io.nowMs, io.siblingFrame, io.opens, io.initNowMs, []⟩, by rw [begins, if_pos failed]⟩
  · rw [if_neg failed] at rest
    obtain ⟨heard, ran⟩ := negotiationRefines rest
    exact ⟨⟨io.nowMs, io.siblingFrame, io.opens, io.initNowMs, heard⟩, by rw [begins, if_neg failed, ran]⟩

theorem callRefines {s s' : Station} {call : StationCall} {sent : Option RteStatus}
    (done : s.call call = some (s', sent)) :
    (∃ answers status, siteRoleStart s.rs answers = some (s'.rs, status)) ∨
      ∃ answered, s'.rs = siteRoleCall s.rs answered := by
  cases call with
  | start io =>
    obtain ⟨⟨_, status⟩, started, same⟩ := Option.map_eq_some_iff.mp done
    cases same
    obtain ⟨answers, ran⟩ := startRefines started
    exact Or.inl ⟨answers, status, ran⟩
  | execute cycle own io =>
    obtain ⟨⟨executed, _⟩, ran, same⟩ := Option.map_eq_some_iff.mp done
    cases same
    obtain ⟨answers, equal⟩ := executeRefines ran
    exact Or.inr ⟨.execute cycle own answers, by rw [siteRoleCall, ← equal]⟩
  | serviceLink cycle reads =>
    obtain ⟨_, served, same⟩ := Option.map_eq_some_iff.mp done
    cases same
    obtain ⟨answers, equal⟩ := serviceRefines served
    exact Or.inr ⟨.serviceLink cycle answers, equal⟩
  | syncStandby cycle own region answers =>
    obtain ⟨status, equal⟩ := syncRefines done
    exact Or.inr ⟨.syncStandby cycle own region status, equal⟩
  | flushFaulted singleMode region answers => exact Or.inr ⟨.flushFaulted singleMode region, flushSame done⟩
  | onTakeoverConfirm cycle =>
    cases done
    exact Or.inr ⟨.onTakeoverConfirm cycle, rfl⟩
  | onTakeoverToken cycle token draw =>
    cases done
    exact Or.inr ⟨.onTakeoverToken cycle token draw, rfl⟩
  | noteLostContact =>
    cases done
    exact Or.inr ⟨.noteLostContact, rfl⟩
  | checkSibling ownSingleMode sibling =>
    cases done
    exact Or.inr ⟨.checkSibling ownSingleMode sibling, rfl⟩
  | shutdown =>
    cases done
    exact Or.inr ⟨.shutdown, rfl⟩

end Station

end PlatformRte.SiteRole
