import PlatformRte.SiteRole.Wire
import PlatformRte.SiteRole.LinkCounts

/-! One call of a site-role channel over a link that delivers and a peer that acknowledges in
time: from the size of the frames down to the message that carries them. -/
namespace PlatformRte.SiteRole
open PlatformRte.Dual PlatformRte.Dual.Channel PlatformRte.Dual.Listening Checksum Bytes

namespace Station

/- If the send comes to the link, the link takes the message, and the peer that receives it
acknowledges it in time. -/
def Acknowledges (wire : Medium) (frame : Bytes) (answers : List Answer) : Prop :=
  (startCall wire.channel (.send frame)).isLeft = true →
    ∃ first rest, answers = first :: rest ∧ first.linkStatus = .ok ∧
      ((sendOnLink wire.channel wire.manager 0 (dataFrame frame) first).status = .ok →
        ∃ n < rest.length, AckInTime (sendOnLink wire.channel wire.manager 0 (dataFrame frame) first).channel
          (sendOnLink wire.channel wire.manager 0 (dataFrame frame) first).manager (wire.channel.links 0).nextSequence
          first.nowMs (stream rest) n)

def Healthy (s : Station) : StationCall → Prop
  | .execute cycle own io =>
      ∀ negotiated, (s.linked cycle own io).2 = true → (s.linked cycle own io).1.negotiate io.round = some negotiated →
        Acknowledges negotiated.wire (ownFrame negotiated.rs io.region) io.send ∧
        ∀ sent, negotiated.sendFrame io.region io.send = some sent → sent.1.wire.channel.pendingData = none →
          Delivered (sent.1.wire.channel.links 0) sent.1.wire.manager io.receive.arrival
  | .syncStandby cycle own region answers =>
      ∀ frame, (siteRoleSyncStandby s.rs cycle own region .timeout).2 = some frame → Acknowledges s.wire frame answers
  | .flushFaulted singleMode region answers =>
      ∀ frame, siteRoleFlushFaulted s.rs singleMode region = some frame → Acknowledges s.wire frame answers
  | _ => True

def Matching (s : Station) : StationCall → Prop
  | .start io => ∀ round ∈ io.rounds, ∀ answer ∈ round.reads, Fits s.rs.cfg.frameSize answer
  | .execute _ _ io => ∀ answer ∈ io.receive :: (io.round.reads ++ io.send), Fits s.rs.cfg.frameSize answer
  | .serviceLink _ reads => ∀ read ∈ reads, Fits s.rs.cfg.frameSize read.1
  | .syncStandby _ _ _ answers => ∀ answer ∈ answers, Fits s.rs.cfg.frameSize answer
  | .flushFaulted _ _ answers => ∀ answer ∈ answers, Fits s.rs.cfg.frameSize answer
  | _ => True

def Stays (s s' : Station) : StationCall → Prop
  | .start _ => True
  | .shutdown => True
  | .execute _ _ io => (s.rs.link || decide (io.reopen.status = .ok)) = true → s'.rs.link = true
  | _ => s'.rs.link = s.rs.link

structure Kept (s : Station) (call : StationCall) : Prop where
  returns : (∀ io, call ≠ .start io) → (s.call call).isSome = true
  sends : ∀ s' status, s.call call = some (s', some status) → status = .ok
  misses : ∀ s' sent, s.call call = some (s', sent) → s'.rs.sendMiss = 0
  stays : ∀ s' sent, s.call call = some (s', sent) → Stays s s' call

def Refused (s : Station) : StationCall → Prop
  | .execute cycle own io => ∀ s' status, s.execute cycle own io = some (s', some status) →
      status = .invalidParam ∧ (s'.rs.link = true → 0 < s'.rs.sendMiss)
  | _ => True

structure Steady (cfg : SiteRoleConfig) (ackTimeoutMs : UInt32) (s : Station) : Prop where
  configured : s.rs.cfg = cfg
  timeout : s.ackTimeoutMs = ackTimeoutMs
  miss : s.rs.sendMiss = 0
  ready : s.wire.manager.initialized = true
  serves : s.rs.link = true → Serves ackTimeoutMs cfg.frameSize s.wire.channel s.wire.manager

section Steady
variable {cfg : SiteRoleConfig} {ackTimeoutMs : UInt32} {s : Station}

theorem steadyAside {rs : RteSiteRole} (steady : Steady cfg ackTimeoutMs s) (same : SameLink s.rs rs) :
    Steady cfg ackTimeoutMs { s with rs := rs } :=
  ⟨same.cfg.trans steady.configured, steady.timeout, same.miss.trans steady.miss, steady.ready,
    fun up => steady.serves (same.link.symm.trans up)⟩

theorem initServes (s : Station) (size : Nat) (ready : s.wire.manager.initialized = true) :
    s.initChannel.rs = s.rs ∧ s.initChannel.ackTimeoutMs = s.ackTimeoutMs ∧
      s.initChannel.wire.manager = s.wire.manager ∧
      Serves s.ackTimeoutMs size s.initChannel.wire.channel s.initChannel.wire.manager := by
  have accepted : ∃ channel, Channel.dualChannelInit
      ⟨[true], 1, s.rs.cfg.ownId, s.rs.cfg.peerId, s.ackTimeoutMs, false⟩ = .ok channel ∧
      channel.linkCount = 1 ∧ channel.ackTimeoutMs = s.ackTimeoutMs ∧ channel.pendingData = none := by
    simp [Channel.dualChannelInit, dualChannelMaxLinks]
  obtain ⟨channel, init, single, timeout, nothing⟩ := accepted
  simp only [initChannel, init]
  refine ⟨trivial, trivial, trivial, single, timeout, fun payload pending => ?_, ready⟩
  have none_ : (dualChannelSetResync channel true).pendingData = none := nothing
  rw [none_] at pending
  cases pending

theorem prepareLink (s : Station) (cycle : UInt32) (own : SiteRoleLocal) (io : CycleIo) :
    SameLink s.rs (s.prepare cycle own io).rs := by
  unfold prepare refreshChallenge
  dsimp only
  split
  · exact ⟨(drawLink _ cycle io.draw).cfg, (drawLink _ cycle io.draw).link, (drawLink _ cycle io.draw).miss⟩
  · exact ⟨rfl, rfl, rfl⟩

theorem linkedCfg (s : Station) (cycle : UInt32) (own : SiteRoleLocal) (io : CycleIo) :
    (s.linked cycle own io).1.rs.cfg = s.rs.cfg := by
  obtain ⟨⟨_, equal⟩, _⟩ := ensureSame (s.prepare cycle own io).rs io.reopen
  have same : (s.linked cycle own io).1.rs = (SiteRole.ensureLink (s.prepare cycle own io).rs io.reopen).1 := rfl
  rw [same, equal]
  exact (prepareLink s cycle own io).cfg

theorem linkedSteady (steady : Steady cfg ackTimeoutMs s) (cycle : UInt32) (own : SiteRoleLocal) (io : CycleIo) :
    Steady cfg ackTimeoutMs (s.linked cycle own io).1 ∧
      (s.linked cycle own io).1.rs.link = (s.linked cycle own io).2 ∧
      (s.linked cycle own io).2 = (s.rs.link || decide (io.reopen.status = .ok)) := by
  have prepared := prepareLink s cycle own io
  obtain ⟨⟨kept, equal⟩, up⟩ := ensureSame (s.prepare cycle own io).rs io.reopen
  have miss := ensureLinkMiss io.reopen (prepared.miss.trans steady.miss)
  obtain ⟨_, sameTimeout, sameManager, serves⟩ := initServes (s.prepare cycle own io) cfg.frameSize steady.ready
  have linkedUp : (s.linked cycle own io).2 = (s.rs.link || decide (io.reopen.status = .ok)) := by
    rw [← prepared.link]
    exact up
  have linkedRs : (s.linked cycle own io).1.rs = (SiteRole.ensureLink (s.prepare cycle own io).rs io.reopen).1 := rfl
  have linkedLink : (s.linked cycle own io).1.rs.link = (s.linked cycle own io).2 := by
    rw [linkedRs, equal, linkedUp, ← prepared.link]
    rfl
  have configured : (s.linked cycle own io).1.rs.cfg = cfg := (linkedCfg s cycle own io).trans steady.configured
  refine ⟨?_, linkedLink, linkedUp⟩
  cases opens : (SiteRole.ensureLink (s.prepare cycle own io).rs io.reopen).2 && !(s.prepare cycle own io).rs.link with
  | true =>
    have same : (s.linked cycle own io).1 = { (s.prepare cycle own io).initChannel with
        rs := (SiteRole.ensureLink (s.prepare cycle own io).rs io.reopen).1 } := by
      simp only [linked, ensureLink, opens, if_true]
    refine ⟨configured, ?_, miss, ?_, fun _ => ?_⟩
    · rw [same]
      exact sameTimeout.trans steady.timeout
    · rw [same]
      exact (congrArg _ sameManager).trans steady.ready
    · rw [same, ← steady.timeout]
      exact serves
  | false =>
    have same : (s.linked cycle own io).1 = { s.prepare cycle own io with
        rs := (SiteRole.ensureLink (s.prepare cycle own io).rs io.reopen).1 } := by
      simp only [linked, ensureLink, opens, Bool.false_eq_true, if_false]
    refine ⟨configured, ?_, miss, ?_, fun open_ => ?_⟩
    · rw [same]
      exact steady.timeout
    · rw [same]
      exact steady.ready
    · rw [same]
      refine steady.serves ?_
      rw [linkedLink] at open_
      have opened : (SiteRole.ensureLink (s.prepare cycle own io).rs io.reopen).2 = true := open_
      rw [opened, Bool.true_and, Bool.not_eq_false'] at opens
      exact prepared.link.symm.trans opens

theorem negotiateSteady {s' : Station} {io : RoundIo} (steady : Steady cfg ackTimeoutMs s) (up : s.rs.link = true)
    (fits : ∀ answer ∈ io.reads, Fits cfg.frameSize answer) (done : s.negotiate io = some s') :
    Steady cfg ackTimeoutMs s' ∧ s'.rs.link = true := by
  obtain ⟨after, executed, rfl⟩ := Option.map_eq_some_iff.mp done
  have provides := executeProvides (n := s.rs.negotiator) ⟨steady.serves up, fun _ => fits⟩ executed
  exact ⟨⟨steady.configured, steady.timeout, steady.miss, provides.serves.ready, fun _ => provides.serves⟩, up⟩

theorem sendSteady {s' : Station} {frame : Bytes} {answers : List Answer} {status : RteStatus}
    (steady : Steady cfg ackTimeoutMs s) (up : s.rs.link = true)
    (fits : ∀ answer ∈ answers, Fits cfg.frameSize answer) (sent : s.send frame answers = some (s', status)) :
    Steady cfg ackTimeoutMs s' := by
  unfold send at sent
  split at sent
  · rename_i ran
    cases sent
    have serves := runCallServes fits (steady.serves up) ran
    exact ⟨steady.configured, steady.timeout, steady.miss, serves.ready, fun _ => serves⟩
  · cases sent

theorem sendHealthy {frame : Bytes} {answers : List Answer} (steady : Steady cfg ackTimeoutMs s)
    (up : s.rs.link = true) (budget : 0 < ackTimeoutMs) (small : frame.length ≤ dualChannelMaxPayload)
    (healthy : Acknowledges s.wire frame answers) : ∃ s', s.send frame answers = some (s', .ok) := by
  have serves := steady.serves up
  have comes : (startCall s.wire.channel (.send frame)).isLeft = true := by
    rw [startCall, if_neg (Nat.not_lt.mpr small)]
    rfl
  obtain ⟨first, rest, rfl, linkOk, acks⟩ := healthy comes
  have sent := transmits s.wire.channel 0 serves.ready (dataFrameShort small) linkOk
  obtain ⟨n, within, ack⟩ := acks sent
  obtain ⟨ended, callback, ran, returned⟩ := sendAcknowledged serves.single (by rw [serves.timeout]; exact budget) small
    sent within ack
  obtain ⟨channel, manager, returned_⟩ := ended
  cases returned
  exact ⟨{ s with wire := ⟨channel, manager⟩ }, by rw [send, ran]⟩

section Receive
variable {answer : Answer}

theorem sizeByte (room : frameOverhead < cfg.frameSize) (byte : cfg.frameSize ≤ 255) :
    UInt8.ofNat cfg.frameSize ≠ 0 ∧ (UInt8.ofNat cfg.frameSize).toNat = cfg.frameSize := by
  have same : (UInt8.ofNat cfg.frameSize).toNat = cfg.frameSize := by
    rw [UInt8.toNat_ofNat']
    exact Nat.mod_eq_of_lt (Nat.lt_succ_of_le byte)
  refine ⟨fun zero => ?_, same⟩
  rw [zero] at same
  exact absurd (same.symm ▸ room : frameOverhead < (0 : UInt8).toNat) (by decide)

theorem receiveSteady {accepted : Bool} {s' : Station} {received : ReceiveAnswer} (steady : Steady cfg ackTimeoutMs s)
    (up : s.rs.link = true) (fits : Fits cfg.frameSize answer)
    (done : s.receive answer accepted = some (s', received)) : Steady cfg ackTimeoutMs s' := by
  unfold receive at done
  split at done
  · rename_i ran
    cases done
    have only : ∀ one ∈ [answer], Fits cfg.frameSize one :=
      fun one inside => by rw [List.mem_singleton.mp inside]; exact fits
    have serves := runCallServes only (steady.serves up) ran
    exact ⟨steady.configured, steady.timeout, steady.miss, serves.ready, fun _ => serves⟩
  · cases done

theorem receiveDone (accepted : Bool) (room : frameOverhead < cfg.frameSize) (byte : cfg.frameSize ≤ 255)
    (steady : Steady cfg ackTimeoutMs s) (up : s.rs.link = true) (fits : Fits cfg.frameSize answer) :
    ∃ s' received, s.receive answer accepted = some (s', received) := by
  obtain ⟨some_, same⟩ := sizeByte room byte
  obtain ⟨⟨channel, manager, _⟩, status, payload, ran, rfl⟩ := receiveFinishes (m := s.wire.manager) some_
    (by rw [same]; exact steady.serves up) (by rw [same]; exact fits)
  rw [← steady.configured] at ran
  exact ⟨_, _, by rw [receive, ran]⟩

theorem receiveHealthy (accepted : Bool) (room : frameOverhead < cfg.frameSize) (byte : cfg.frameSize ≤ 255)
    (steady : Steady cfg ackTimeoutMs s) (up : s.rs.link = true) (fits : Fits cfg.frameSize answer)
    (delivered : s.wire.channel.pendingData = none →
      Delivered (s.wire.channel.links 0) s.wire.manager answer.arrival) :
    ∃ s' received, s.receive answer accepted = some (s', received) ∧
      (received.status = .ok ∨ received.status = .timeout) := by
  obtain ⟨some_, same⟩ := sizeByte room byte
  obtain ⟨⟨channel, manager, _⟩, status, payload, ran, rfl, sound⟩ := receiveDelivered (m := s.wire.manager) some_
    (by rw [same]; exact steady.serves up) (by rw [same]; exact fits) delivered
  rw [← steady.configured] at ran
  exact ⟨_, ⟨status, payload.getD [], accepted⟩, by rw [receive, ran], sound⟩

end Receive

theorem negotiateDone (s : Station) (io : RoundIo) : ∃ s', s.negotiate io = some s' := by
  obtain ⟨_, _, _, after, executed, _⟩ := executeReads s.rs.negotiator
    ⟨s.wire.channel, s.wire.manager, fun _ => io.reads⟩ io.clock fun _ => io.beacon
  exact ⟨_, by rw [negotiate, executed, Option.map_some]⟩

theorem ownLength (room : frameOverhead < cfg.frameSize) (configured : s.rs.cfg = cfg) (region : Bytes) :
    (ownFrame s.rs region).length = cfg.frameSize := by
  rw [ownFrame, configured]
  exact encodedLength _ _ _ _ _ room

theorem executeKept {cycle : UInt32} {own : SiteRoleLocal} {io : CycleIo} (room : frameOverhead < cfg.frameSize)
    (small : cfg.frameSize ≤ dualChannelMaxPayload) (threshold : 1 ≤ cfg.sendMissThreshold) (budget : 0 < ackTimeoutMs)
    (steady : Steady cfg ackTimeoutMs s) (healthy : Healthy s (.execute cycle own io))
    (matching : Matching s (.execute cycle own io)) :
    ∃ s' sent, s.execute cycle own io = some (s', sent) ∧ (∀ status, sent = some status → status = .ok) ∧
      Steady cfg ackTimeoutMs s' ∧ s'.rs.link = (s.rs.link || decide (io.reopen.status = .ok)) := by
  obtain ⟨linked, sameUp, up⟩ := linkedSteady steady cycle own io
  rw [Matching, steady.configured] at matching
  unfold execute
  dsimp only
  cases opened : (s.linked cycle own io).2 with
  | false =>
    have decided := (decisionLink (s.linked cycle own io).1.rs own).trans (checkAfterLink _ own)
    rw [opened] at sameUp up
    rw [if_neg Bool.false_ne_true]
    exact ⟨_, none, rfl, by simp, steadyAside linked decided, (decided.link.trans sameUp).trans up⟩
  | true =>
    rw [opened] at sameUp up
    obtain ⟨negotiated, heard⟩ := negotiateDone (s.linked cycle own io).1 io.round
    obtain ⟨acks, delivers⟩ := healthy negotiated opened heard
    obtain ⟨steady₁, up₁⟩ := negotiateSteady linked sameUp
      (fun answer read => matching answer (List.mem_cons_of_mem _ (List.mem_append_left _ read))) heard
    have length : (ownFrame negotiated.rs io.region).length ≤ dualChannelMaxPayload := by
      rw [ownLength room steady₁.configured]
      exact small
    obtain ⟨sent, sending⟩ := sendHealthy steady₁ up₁ budget length acks
    have steady₂ := sendSteady steady₁ up₁
      (fun answer read => matching answer (List.mem_cons_of_mem _ (List.mem_append_right _ read))) sending
    have up₂ : sent.rs.link = true := by rw [(sendSame sending).1, up₁]
    have fits := matching io.receive List.mem_cons_self
    have byte : cfg.frameSize ≤ 255 := Nat.le_trans small (by decide)
    obtain ⟨received, answer, receiving, sound⟩ := receiveHealthy io.accepted room byte steady₂ up₂ fits
      (delivers _ sending)
    have steady₃ := receiveSteady steady₂ up₂ fits receiving
    have up₃ : received.rs.link = true := by rw [(receiveSame receiving).1, up₂]
    obtain ⟨sameCfg, sameLink, noMiss⟩ := finishKept own (by rw [steady₃.configured]; exact threshold) sound
    rw [if_pos rfl]
    refine ⟨{ received with rs := siteRoleExecuteFinish received.rs own true answer }, some .ok, ?_, by simp,
      ⟨sameCfg.trans steady₃.configured, steady₃.timeout, noMiss, steady₃.ready, fun _ => steady₃.serves up₃⟩,
      (sameLink.trans up₃).trans up⟩
    simp only [heard, sendFrame, sending, receiving, Option.bind_eq_bind, Option.bind_some, decide_true]

theorem drainSteady (room : frameOverhead < cfg.frameSize) (byte : cfg.frameSize ≤ 255) {n : Nat}
    {reads : List (Answer × Bool)} (steady : Steady cfg ackTimeoutMs s) (up : s.rs.link = true)
    (fits : ∀ read ∈ reads, Fits cfg.frameSize read.1) :
    ∃ s', s.drainLink n reads = some s' ∧ Steady cfg ackTimeoutMs s' ∧ s'.rs.link = true := by
  induction n generalizing s reads with
  | zero => exact ⟨s, rfl, steady, up⟩
  | succ n ih =>
    have next : Fits cfg.frameSize (reads.headD (silence, false)).1 := by
      cases reads with
      | nil => simp [Fits, silence]
      | cons read rest => exact fits read List.mem_cons_self
    obtain ⟨received, answer, receiving⟩ := receiveDone (reads.headD (silence, false)).2 room byte steady up
      next
    have kept := receiveSteady steady up next receiving
    have taken := receiveLink received.rs answer
    have up_ : received.rs.link = true := by rw [(receiveSame receiving).1, up]
    have steady_ : Steady cfg ackTimeoutMs { received with rs := (receiveFrame received.rs answer).1 } :=
      steadyAside kept taken
    have unfolded : s.drainLink (n + 1) reads =
        if (receiveFrame received.rs answer).2 = .ok then
          drainLink { received with rs := (receiveFrame received.rs answer).1 } n reads.tail
        else some { received with rs := (receiveFrame received.rs answer).1 } := by
      simp only [drainLink, receiving, Option.bind_eq_bind, Option.bind_some]
    rw [unfolded]
    split
    · exact ih steady_ (taken.link.trans up_) fun read later => fits read (List.mem_of_mem_tail later)
    · exact ⟨_, rfl, steady_, taken.link.trans up_⟩

theorem serviceKept (cycle : UInt32) (room : frameOverhead < cfg.frameSize) (byte : cfg.frameSize ≤ 255)
    {reads : List (Answer × Bool)} (steady : Steady cfg ackTimeoutMs s)
    (fits : ∀ read ∈ reads, Fits cfg.frameSize read.1) :
    ∃ s', s.serviceLink cycle reads = some s' ∧ Steady cfg ackTimeoutMs s' ∧ s'.rs.link = s.rs.link := by
  unfold serviceLink
  split
  · rename_i up
    obtain ⟨s', drained, kept, up_⟩ := drainSteady (s := { s with rs := { s.rs with cycle := cycle } }) (n := serviceDrain)
      room byte (steadyAside steady ⟨rfl, rfl, rfl⟩) up fits
    exact ⟨s', drained, kept, up_.trans up.symm⟩
  · exact ⟨s, rfl, steady, rfl⟩

theorem sendKept {frame : Bytes} {answers : List Answer} (small : frame.length ≤ dualChannelMaxPayload)
    (budget : 0 < ackTimeoutMs) (steady : Steady cfg ackTimeoutMs s) (up : s.rs.link = true)
    (healthy : Acknowledges s.wire frame answers) (fits : ∀ answer ∈ answers, Fits cfg.frameSize answer) :
    ∃ s', s.send frame answers = some (s', .ok) ∧ Steady cfg ackTimeoutMs s' ∧ s'.rs = s.rs := by
  obtain ⟨s', sent⟩ := sendHealthy steady up budget small healthy
  exact ⟨s', sent, sendSteady steady up fits sent, (sendSame sent).1⟩

theorem syncKept (room : frameOverhead < cfg.frameSize) (small : cfg.frameSize ≤ dualChannelMaxPayload)
    (budget : 0 < ackTimeoutMs) {cycle : UInt32} {own : SiteRoleLocal} {region : Bytes} {answers : List Answer}
    (steady : Steady cfg ackTimeoutMs s) (healthy : Healthy s (.syncStandby cycle own region answers))
    (fits : ∀ answer ∈ answers, Fits cfg.frameSize answer) :
    ∃ s' sent, s.syncStandby cycle own region answers = some (s', sent) ∧
      (∀ status, sent = some status → status = .ok) ∧ Steady cfg ackTimeoutMs s' ∧ s'.rs.link = s.rs.link := by
  unfold syncStandby
  split
  · rename_i rs idle
    have same := syncLink s.rs cycle own region .timeout
    rw [idle] at same
    exact ⟨_, none, rfl, by simp, steadyAside steady same, same.link⟩
  · rename_i rs frame due
    obtain ⟨up, length⟩ := syncDue (by rw [steady.configured]; exact room) due
    obtain ⟨s', sent, kept, same⟩ := sendKept (by rw [length, steady.configured]; exact small) budget steady up
      (healthy frame (by rw [due])) fits
    have sync := syncLink s.rs cycle own region .ok
    rw [sent]
    exact ⟨_, some .ok, rfl, by simp, steadyAside kept (by rw [same]; exact sync), sync.link⟩

theorem flushKept (room : frameOverhead < cfg.frameSize) (small : cfg.frameSize ≤ dualChannelMaxPayload)
    (budget : 0 < ackTimeoutMs) {singleMode : Bool} {region : Bytes} {answers : List Answer}
    (steady : Steady cfg ackTimeoutMs s) (healthy : Healthy s (.flushFaulted singleMode region answers))
    (fits : ∀ answer ∈ answers, Fits cfg.frameSize answer) :
    ∃ s' sent, s.flushFaulted singleMode region answers = some (s', sent) ∧
      (∀ status, sent = some status → status = .ok) ∧ Steady cfg ackTimeoutMs s' ∧ s'.rs.link = s.rs.link := by
  unfold flushFaulted
  split
  · exact ⟨s, none, rfl, by simp, steady, rfl⟩
  · rename_i frame due
    obtain ⟨up, length⟩ := flushDue (by rw [steady.configured]; exact room) due
    obtain ⟨s', sent, kept, same⟩ := sendKept (by rw [length, steady.configured]; exact small) budget steady up
      (healthy frame due) fits
    rw [sent]
    exact ⟨s', some .ok, rfl, by simp, kept, by rw [same]⟩

theorem asideKept (call : SiteRoleCall) (steady : Steady cfg ackTimeoutMs s)
    (same : SameLink s.rs (siteRoleCall s.rs call)) :
    ∃ s' sent, s.aside call = some (s', sent) ∧ (∀ status, sent = some status → status = .ok) ∧
      Steady cfg ackTimeoutMs s' ∧ s'.rs.link = s.rs.link :=
  ⟨_, none, rfl, by simp, steadyAside steady same, same.link⟩

theorem roundsSteady {s' : Station} {waitedMs : UInt32} {rounds : List RoundIo} (steady : Steady cfg ackTimeoutMs s)
    (up : s.rs.link = true) (fits : ∀ round ∈ rounds, ∀ answer ∈ round.reads, Fits cfg.frameSize answer)
    (done : s.negotiateRounds waitedMs rounds = some s') : Steady cfg ackTimeoutMs s' ∧ s'.rs.link = true := by
  induction rounds generalizing s waitedMs with
  | nil => cases done
  | cons io rest ih =>
    obtain ⟨next, negotiated, rest_⟩ := Option.bind_eq_some_iff.mp done
    obtain ⟨steady_, up_⟩ := negotiateSteady steady up (fits io List.mem_cons_self) negotiated
    split at rest_
    · exact ih steady_ up_ (fun round later => fits round (List.mem_cons_of_mem _ later)) rest_
    · cases rest_
      exact ⟨steady_, up_⟩

theorem negotiationSteady {s' : Station} {resumeStandby : Bool} {io : BootIo} {status : RteStatus}
    (configured : s.rs.cfg = cfg) (timeout : s.ackTimeoutMs = ackTimeoutMs)
    (ready : s.wire.manager.initialized = true) (up : s.rs.link = true)
    (fits : ∀ round ∈ io.rounds, ∀ answer ∈ round.reads, Fits cfg.frameSize answer)
    (done : s.startNegotiation resumeStandby io = some (s', status)) : Steady cfg ackTimeoutMs s' := by
  obtain ⟨_, sameTimeout, sameManager, serves⟩ := initServes s cfg.frameSize ready
  have begun : (initChannelAndNegotiator s.rs resumeStandby io.initNowMs).2 = .ok ∧
      (initChannelAndNegotiator s.rs resumeStandby io.initNowMs).1.cfg = s.rs.cfg ∧
      (initChannelAndNegotiator s.rs resumeStandby io.initNowMs).1.link = true ∧
      (initChannelAndNegotiator s.rs resumeStandby io.initNowMs).1.sendMiss = 0 := by
    simp [initChannelAndNegotiator, SiteRole.dualChannelInit, up]
  obtain ⟨ok, sameCfg, open_, miss⟩ := begun
  have first : Steady cfg ackTimeoutMs { s.initChannel with
      rs := (initChannelAndNegotiator s.rs resumeStandby io.initNowMs).1 } :=
    ⟨sameCfg.trans configured, sameTimeout.trans timeout, miss, (congrArg _ sameManager).trans ready,
      fun _ => by rw [← timeout]; exact serves⟩
  unfold startNegotiation at done
  dsimp only at done
  rw [if_neg (not_not.mpr ok)] at done
  obtain ⟨settled, negotiated, rest⟩ := Option.bind_eq_some_iff.mp done
  obtain ⟨steady, _⟩ := roundsSteady first open_ fits negotiated
  split at rest
  · cases rest
    exact ⟨steady.configured, steady.timeout, steady.miss, steady.ready, by simp [closeLink]⟩
  · cases rest
    exact steadyAside steady ⟨rfl, rfl, rfl⟩

theorem startSteady {s' : Station} {io : BootIo} {status : RteStatus} (steady : Steady cfg ackTimeoutMs s)
    (fits : ∀ round ∈ io.rounds, ∀ answer ∈ round.reads, Fits cfg.frameSize answer)
    (done : s.start io = some (s', status)) : Steady cfg ackTimeoutMs s' := by
  obtain ⟨⟨opened, status_⟩, opening, rest⟩ := Option.bind_eq_some_iff.mp done
  obtain ⟨online, joined⟩ := joinedSame (pollSiblingSource (startReset s.rs io.nowMs) 0 io.siblingFrame)
  obtain ⟨sameCfg, sameMiss, up, closed⟩ := openBlockingLink opening
  rw [joined] at sameCfg sameMiss closed
  have configured : opened.cfg = cfg := sameCfg.trans steady.configured
  split at rest
  · rename_i failed
    cases rest
    exact ⟨configured, steady.timeout, sameMiss.trans steady.miss, steady.ready,
      fun open_ => steady.serves (closed failed open_)⟩
  · rename_i succeeded
    exact negotiationSteady (s := { s with rs := opened }) configured steady.timeout steady.ready
      (up (not_not.mp succeeded)) fits rest

theorem keptBy {call : StationCall} {s' : Station} {sent : Option RteStatus} (done : s.call call = some (s', sent))
    (ok : ∀ status, sent = some status → status = .ok) (steady : Steady cfg ackTimeoutMs s') (stays : Stays s s' call) :
    Kept s call ∧ ∀ s' sent, s.call call = some (s', sent) → Steady cfg ackTimeoutMs s' := by
  refine ⟨⟨fun _ => by rw [done]; rfl, fun _ status again => ?_, fun _ _ again => ?_, fun _ _ again => ?_⟩,
    fun _ _ again => ?_⟩ <;> rw [done] at again <;> cases again
  · exact ok status rfl
  · exact steady.miss
  · exact stays
  · exact steady

theorem callKept (room : frameOverhead < cfg.frameSize) (small : cfg.frameSize ≤ dualChannelMaxPayload)
    (threshold : 1 ≤ cfg.sendMissThreshold) (budget : 0 < ackTimeoutMs) (call : StationCall)
    (steady : Steady cfg ackTimeoutMs s) (healthy : Healthy s call) (matching : Matching s call) :
    Kept s call ∧ ∀ s' sent, s.call call = some (s', sent) → Steady cfg ackTimeoutMs s' := by
  have byte : cfg.frameSize ≤ 255 := Nat.le_trans small (by decide)
  cases call with
  | start io =>
    rw [Matching, steady.configured] at matching
    have started : ∀ s' sent, s.call (.start io) = some (s', sent) → sent = none ∧ Steady cfg ackTimeoutMs s' := by
      intro s' sent done
      obtain ⟨⟨_, status⟩, ran, same⟩ := Option.map_eq_some_iff.mp done
      cases same
      exact ⟨rfl, startSteady steady matching ran⟩
    exact ⟨⟨fun never => absurd rfl (never io), fun s' status done => absurd (started s' _ done).1 (by simp),
      fun s' sent done => (started s' sent done).2.miss, fun _ _ _ => True.intro⟩,
      fun s' sent done => (started s' sent done).2⟩
  | execute cycle own io =>
    obtain ⟨s', sent, ran, ok, kept, link⟩ := executeKept room small threshold budget steady healthy matching
    have done : s.call (.execute cycle own io) =
        some ({ s' with rs := { s'.rs with tokenLog := .executed cycle :: s'.rs.tokenLog } }, sent) := by
      rw [call, ran, Option.map_some]
    exact keptBy done ok (steadyAside kept ⟨rfl, rfl, rfl⟩) fun up => link.trans up
  | serviceLink cycle reads =>
    rw [Matching, steady.configured] at matching
    obtain ⟨s', ran, kept, link⟩ := serviceKept cycle room byte steady matching
    have done : s.call (.serviceLink cycle reads) = some (s', none) := by rw [call, ran, Option.map_some]
    exact keptBy done (by simp) kept link
  | syncStandby cycle own region answers =>
    rw [Matching, steady.configured] at matching
    obtain ⟨s', sent, ran, ok, kept, link⟩ := syncKept room small budget steady healthy matching
    exact keptBy ran ok kept link
  | flushFaulted singleMode region answers =>
    rw [Matching, steady.configured] at matching
    obtain ⟨s', sent, ran, ok, kept, link⟩ := flushKept room small budget steady healthy matching
    exact keptBy ran ok kept link
  | onTakeoverConfirm cycle =>
    obtain ⟨s', sent, ran, ok, kept, link⟩ := asideKept (.onTakeoverConfirm cycle) steady (confirmLink s.rs cycle)
    exact keptBy ran ok kept link
  | onTakeoverToken cycle token draw =>
    obtain ⟨s', sent, ran, ok, kept, link⟩ := asideKept (.onTakeoverToken cycle token draw) steady
      (tokenLink s.rs cycle token draw)
    exact keptBy ran ok kept link
  | noteLostContact =>
    obtain ⟨s', sent, ran, ok, kept, link⟩ := asideKept (.noteLostContact) steady ⟨rfl, rfl, rfl⟩
    exact keptBy ran ok kept link
  | checkSibling ownSingleMode sibling =>
    obtain ⟨s', sent, ran, ok, kept, link⟩ := asideKept (.checkSibling ownSingleMode sibling) steady
      (checkSiblingLink s.rs ownSingleMode sibling)
    exact keptBy ran ok kept link
  | shutdown =>
    have done : s.call .shutdown = some ({ s with rs := closeLink s.rs }, none) := rfl
    exact keptBy done (by simp) ⟨steady.configured, steady.timeout, steady.miss, steady.ready,
      by simp [closeLink]⟩ True.intro

end Steady

theorem executeRefused {s s' : Station} {cycle : UInt32} {own : SiteRoleLocal} {io : CycleIo} {status : RteStatus}
    (room : frameOverhead < s.rs.cfg.frameSize) (large : dualChannelMaxPayload < s.rs.cfg.frameSize)
    (done : s.execute cycle own io = some (s', some status)) :
    status = .invalidParam ∧ (s'.rs.link = true → 0 < s'.rs.sendMiss) := by
  unfold execute at done
  dsimp only at done
  split at done
  · obtain ⟨negotiated, heard, rest⟩ := Option.bind_eq_some_iff.mp done
    obtain ⟨⟨sent, status_⟩, sending, rest⟩ := Option.bind_eq_some_iff.mp rest
    obtain ⟨⟨received, answer⟩, receiving, last⟩ := Option.bind_eq_some_iff.mp rest
    obtain ⟨_, beacons, same⟩ := negotiateRefines heard
    have configured : negotiated.rs.cfg = s.rs.cfg := by
      rw [same]
      exact linkedCfg s cycle own io
    have refused : status_ = .invalidParam := by
      rw [sendFrame, send, sendRefused (by rw [ownLength room configured]; exact large)] at sending
      cases sending
      rfl
    cases last
    refine ⟨refused, fun up => ?_⟩
    rw [refused] at up ⊢
    exact finishMissed _ own answer up
  · cases done

theorem callConfigured {s s' : Station} {call : StationCall} {sent : Option RteStatus}
    (done : s.call call = some (s', sent)) : s'.rs.cfg = s.rs.cfg := by
  rcases callRefines done with ⟨_, _, started⟩ | ⟨answered, equal⟩
  · exact startCfg started
  · rw [equal, callCfg]

end Station

end PlatformRte.SiteRole
