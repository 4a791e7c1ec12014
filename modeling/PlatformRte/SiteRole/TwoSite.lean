import PlatformRte.SiteRole.Service
import PlatformRte.Lib.Machine
import PlatformRte.Lib.Pair

/-! The two sites of a pair and the frames in flight between them. Every call of a
site is one step, except that rte_site_role_execute() is two: the other site may act
between the frame it sends and the half that receives. A frame may be lost or late;
the frames that arrive keep their order. -/
namespace PlatformRte.SiteRole.TwoSite
open RteSiteRole

/- What a receive finds: one of the frames in flight, past which the earlier ones are
lost, or a failure. -/
inductive Delivery where
  | frame (index : Nat) (accepted : Bool)
  | failed (status : {status : RteStatus // status ≠ .ok})
  deriving DecidableEq, Repr

def answer (inbox : List Bytes) : Delivery → ReceiveAnswer
  | .frame index accepted =>
      match inbox[index]? with
      | some raw => ⟨.ok, raw, accepted⟩
      | none => ⟨.timeout, [], false⟩
  | .failed status => ⟨status, [], false⟩

def remaining (inbox : List Bytes) : Delivery → List Bytes
  | .frame index _ => inbox.drop (index + 1)
  | .failed _ => inbox

def answers (inbox : List Bytes) : List Delivery → List ReceiveAnswer × List Bytes
  | [] => ([], inbox)
  | delivery :: rest =>
      let later := answers (remaining inbox delivery) rest
      (answer inbox delivery :: later.1, later.2)

/- pending: the frame of a cycle is out and the cycle has not received yet. -/
structure Site where
  rs : RteSiteRole
  pending : Option (SiteRoleLocal × Bool)
  inbox : List Bytes
  lastCycle : Option UInt32

inductive Action where
  | begin (cycle : UInt32) (own : SiteRoleLocal) (io : ExecuteIo)
  | finish (delivery : Delivery)
  | serviceLink (cycle : UInt32) (deliveries : List Delivery)
  | syncStandby (cycle : UInt32) (own : SiteRoleLocal) (region : Bytes) (status : RteStatus)
  | flushFaulted (singleMode : Bool) (region : Bytes)
  | onTakeoverConfirm (cycle : UInt32)
  | onTakeoverToken (cycle : UInt32) (token : Bytes) (draw : Option Bytes)
  | noteLostContact
  | shutdown
  deriving DecidableEq, Repr

def act (site : Site) : Action → Site × Option Bytes
  | .begin cycle own io =>
      let begun := siteRoleExecuteBegin site.rs cycle own io
      ({ site with
          rs := begun.1
          pending := begun.2.map fun _ => (own, decide (io.sendStatus = .ok))
          lastCycle := some cycle },
        begun.2)
  | .finish delivery =>
      match site.pending with
      | none => (site, none)
      | some (own, sendOk) =>
          ({ site with
              rs := siteRoleExecuteFinish site.rs own sendOk (answer site.inbox delivery)
              pending := none
              inbox := remaining site.inbox delivery },
            none)
  | .serviceLink cycle deliveries =>
      let drawn := answers site.inbox deliveries
      ({ site with rs := siteRoleServiceLink site.rs cycle drawn.1, inbox := drawn.2 }, none)
  | .syncStandby cycle own region status =>
      let synced := siteRoleSyncStandby site.rs cycle own region status
      ({ site with rs := synced.1 }, synced.2)
  | .flushFaulted singleMode region => (site, siteRoleFlushFaulted site.rs singleMode region)
  | .onTakeoverConfirm cycle => ({ site with rs := siteRoleOnTakeoverConfirm site.rs cycle }, none)
  | .onTakeoverToken cycle token draw =>
      ({ site with rs := (siteRoleOnTakeoverToken site.rs cycle token draw).1 }, none)
  | .noteLostContact => ({ site with rs := siteRoleNoteLostContact site.rs }, none)
  | .shutdown => ({ site with rs := siteRoleShutdown site.rs }, none)

def reportOf : RoleEvent → Option SiteRoleChange
  | .changed _ change => some change
  | _ => none

def changes (rs : RteSiteRole) : List SiteRoleChange := rs.roleLog.filterMap reportOf

structure Sites where
  at_ : Pair Site
  log : List (Party × SiteRoleChange)

def Sites.get (s : Sites) (p : Party) : Site := s.at_.get p

def reported (p : Party) (before after : RteSiteRole) : List (Party × SiteRoleChange) :=
  ((changes after).take ((changes after).length - (changes before).length)).map fun change => (p, change)

def step (s : Sites) (e : Party × Action) : Sites :=
  let acted := act (s.get e.1) e.2
  let other := s.get e.1.other
  { at_ := (s.at_.set e.1 acted.1).set e.1.other { other with inbox := other.inbox ++ acted.2.toList }
    log := reported e.1 (s.get e.1).rs acted.1.rs ++ s.log }

theorem halvesExecute (site : Site) (cycle : UInt32) (own : SiteRoleLocal) (io : ExecuteIo) (delivery : Delivery) :
    (act site (.begin cycle own io)).1.pending = none ∧
        (act site (.begin cycle own io)).1.rs = siteRoleExecute site.rs cycle own io ∨
      (act (act site (.begin cycle own io)).1 (.finish delivery)).1.rs =
        siteRoleExecute site.rs cycle own { io with receive := answer site.inbox delivery } := by
  have begun : siteRoleExecuteBegin site.rs cycle own { io with receive := answer site.inbox delivery } =
      siteRoleExecuteBegin site.rs cycle own io := rfl
  simp only [act, siteRoleExecute, begun]
  cases (siteRoleExecuteBegin site.rs cycle own io).2 with
  | none => exact Or.inl ⟨rfl, rfl⟩
  | some frame => exact Or.inr rfl

section Turns

/- Between the halves of a cycle a site makes no other call. -/
def InTurn (site : Site) : Action → Prop
  | .finish _ => True
  | _ => site.pending = none

def Action.facts : Action → Option SiteRoleLocal
  | .begin _ own _ => some own
  | .syncStandby _ own _ _ => some own
  | _ => none

def Action.confirms : Action → Bool
  | .onTakeoverConfirm _ => true
  | .onTakeoverToken _ _ _ => true
  | _ => false

def Alone (own : SiteRoleLocal) : Prop :=
  own.siblingOnline = false ∧ own.siblingReady = false ∧ own.siblingReachable = false

instance (site : Site) : ∀ a, Decidable (InTurn site a)
  | .finish _ => isTrue True.intro
  | .begin .. | .serviceLink .. | .syncStandby .. | .flushFaulted .. | .onTakeoverConfirm .. | .onTakeoverToken ..
  | .noteLostContact | .shutdown => inferInstanceAs (Decidable (site.pending = none))

instance (own : SiteRoleLocal) : Decidable (Alone own) :=
  inferInstanceAs (Decidable (_ ∧ _ ∧ _))

end Turns

/- A WEST (party one) and an EAST site with one channel each, set up and not yet
called. -/
structure Ready (s : Sites) : Prop where
  fresh : ∀ p, ∃ rs, SetUp rs ∧ s.get p = ⟨rs, none, [], none⟩
  west : (s.get .one).rs.cfg.isWest = true
  east : (s.get .two).rs.cfg.isWest = false
  frameSize : (s.get .two).rs.cfg.frameSize = (s.get .one).rs.cfg.frameSize
  alone : ∀ p, (s.get p).rs.cfg.siblingSource = false
  log : s.log = []

structure Unmoved (s s' : RteSiteRole) : Prop where
  cfg : s'.cfg = s.cfg
  online : s'.online = s.online
  localFaulted : s'.localFaulted = s.localFaulted
  peerFaulted : s'.peerFaulted = s.peerFaulted
  peerOnlineNow : s'.peerOnlineNow = s.peerOnlineNow
  peerLastRxCycle : s'.peerLastRxCycle = s.peerLastRxCycle
  takeoverConfirmed : s'.takeoverConfirmed = s.takeoverConfirmed
  lostPeerWhileOnline : s'.lostPeerWhileOnline = s.lostPeerWhileOnline
  bothStandbyCycles : s'.bothStandbyCycles = s.bothStandbyCycles
  roleLog : s'.roleLog = s.roleLog

theorem unmovedSame {s s' : RteSiteRole} (same : Same s s') : Unmoved s s' := by
  obtain ⟨_, rfl⟩ := same
  constructor <;> rfl

inductive Passes (site : Site) (a : Action) : RteSiteRole → Prop where
  | start : Passes site a site.rs
  | quiet {s s'} (before : Passes site a s) (unmoved : Unmoved s s') : Passes site a s'
  | taken {s own} (before : Passes site a s) (facts : a.facts = some own) : Passes site a (takeLocal s own)
  | decoded {s raw} (before : Passes site a s) (arrived : raw ∈ site.inbox) :
      Passes site a (decodeFrame (buffered s raw))
  | confirmed {s} (before : Passes site a s) (confirms : a.confirms = true) (standby : s.online = false)
      (cycle : UInt32) : Passes site a (recordTakeoverConfirmation s cycle)
  | lost {s} (before : Passes site a s) (noted : a = .noteLostContact) : Passes site a (siteRoleNoteLostContact s)

theorem passesTicked (site : Site) (a : Action) (cycle : UInt32) : Passes site a { site.rs with cycle := cycle } :=
  Passes.start.quiet (by constructor <;> rfl)

theorem answerPayload {inbox : List Bytes} {delivery : Delivery} (received : (answer inbox delivery).status = .ok) :
    (answer inbox delivery).payload ∈ inbox := by
  cases delivery with
  | frame index accepted =>
    simp only [answer] at received ⊢
    split at received
    · rename_i raw found
      exact List.mem_of_getElem? found
    · cases received
  | failed status => exact absurd received status.2

theorem remainingSub {inbox : List Bytes} {delivery : Delivery} {raw : Bytes} (left : raw ∈ remaining inbox delivery) :
    raw ∈ inbox := by
  cases delivery with
  | frame index accepted => exact List.mem_of_mem_drop left
  | failed status => exact left

theorem answersSub {inbox : List Bytes} {deliveries : List Delivery} :
    (∀ reply ∈ (answers inbox deliveries).1, reply.status = .ok → reply.payload ∈ inbox) ∧
      ∀ raw ∈ (answers inbox deliveries).2, raw ∈ inbox := by
  induction deliveries generalizing inbox with
  | nil => exact ⟨fun reply member => by simp [answers] at member, fun raw member => member⟩
  | cons delivery rest ih =>
    obtain ⟨replies, left⟩ := @ih (remaining inbox delivery)
    constructor
    · intro reply member received
      rcases List.mem_cons.mp member with rfl | later
      · exact answerPayload received
      · exact remainingSub (replies reply later received)
    · intro raw member
      exact remainingSub (left raw member)

theorem inboxSub (site : Site) (a : Action) {raw : Bytes} (left : raw ∈ (act site a).1.inbox) : raw ∈ site.inbox := by
  cases a with
  | finish delivery =>
    simp only [act] at left
    split at left
    · exact left
    · exact remainingSub left
  | serviceLink cycle deliveries => exact answersSub.2 raw left
  | _ => exact left

theorem passesReceive {site : Site} {a : Action} {s : RteSiteRole} (before : Passes site a s) {reply : ReceiveAnswer}
    (arrived : reply.status = .ok → reply.payload ∈ site.inbox) : Passes site a (receiveFrame s reply).1 := by
  rcases receiveCases s reply with ⟨buffer, equal⟩ | ⟨received, _, equal⟩ <;> rw [equal]
  · exact before.quiet (by constructor <;> rfl)
  · exact before.decoded (arrived received)

theorem passesDrain {site : Site} {a : Action} (n : Nat) {replies : List ReceiveAnswer} {s : RteSiteRole}
    (before : Passes site a s) (arrived : ∀ reply ∈ replies, reply.status = .ok → reply.payload ∈ site.inbox) :
    Passes site a (drainLink s n replies) := by
  induction n generalizing s replies with
  | zero => simpa [drainLink] using before
  | succ n ih =>
    cases replies with
    | nil => exact before
    | cons reply rest =>
      have next := passesReceive before (arrived reply List.mem_cons_self)
      simp only [drainLink]
      split
      · exact ih next fun later member => arrived later (List.mem_cons_of_mem reply member)
      · exact next

theorem passesOpened {site : Site} {a : Action} {own : SiteRoleLocal} (facts : a.facts = some own) (cycle : UInt32)
    (frame : Option SiteRoleSibling) (up : Bool) : Passes site a (opened site.rs cycle own frame up) :=
  ((passesTicked site a cycle).taken facts).quiet (by constructor <;> rfl)

inductive Decides (site : Site) : Action → SiteRoleLocal → RteSiteRole → Prop where
  | closed {cycle own io} (down : linkUp site.rs io = false) :
      Decides site (.begin cycle own io) own (opened site.rs cycle own io.siblingFrame false)
  | received {delivery own sendOk} (pending : site.pending = some (own, sendOk)) :
      Decides site (.finish delivery) own (staleDropped (receiveFrame site.rs (answer site.inbox delivery)).1)

theorem decidesPasses {site : Site} {a : Action} {own : SiteRoleLocal} {s : RteSiteRole}
    (decides : Decides site a own s) : Passes site a s := by
  cases decides with
  | closed down => exact passesOpened rfl _ _ _
  | received pending => exact (passesReceive Passes.start answerPayload).quiet (by constructor <;> rfl)

inductive TearsDown (site : Site) : Action → Prop where
  | dead {delivery own sendOk} (pending : site.pending = some (own, sendOk))
      (dead : linkDead (countSendMiss site.rs sendOk) (answer site.inbox delivery).status = true) :
      TearsDown site (.finish delivery)

theorem acted (site : Site) (a : Action) :
    Passes site a (act site a).1.rs ∨
      ∃ own s s', Decides site a own s ∧ Decided s own s' ∧
        (Same s' (act site a).1.rs ∨ (TearsDown site a ∧ Same (tornDown s') (act site a).1.rs)) := by
  cases a with
  | begin cycle own io =>
    cases up : linkUp site.rs io
    · obtain ⟨_, step⟩ := beginClosed cycle own up
      exact Or.inr ⟨own, _, _, .closed up, step, Or.inl (sameRefl _)⟩
    · obtain ⟨_, same⟩ := beginOpen cycle own up
      exact Or.inl ((passesOpened rfl cycle io.siblingFrame true).quiet (unmovedSame same))
  | finish delivery =>
    simp only [act]
    split
    · exact Or.inl .start
    · rename_i own sendOk pending
      obtain ⟨s', step, last⟩ := finishDecided (sameRefl site.rs) own sendOk (answer site.inbox delivery)
      exact Or.inr ⟨own, _, s', .received pending, step, last.imp_right fun torn => ⟨.dead pending torn.1, torn.2⟩⟩
  | serviceLink cycle deliveries =>
    refine Or.inl ?_
    simp only [act, siteRoleServiceLink]
    split
    · exact passesDrain serviceDrain (passesTicked site _ cycle) answersSub.1
    · exact .start
  | syncStandby cycle own region status =>
    exact Or.inl ((Passes.start.taken rfl).quiet (unmovedSame (syncSame site.rs cycle own region status)))
  | flushFaulted singleMode region => exact Or.inl .start
  | onTakeoverConfirm cycle =>
    refine Or.inl ?_
    simp only [act]
    rcases confirmCases site.rs cycle with equal | ⟨standby, _, equal⟩ <;> rw [equal]
    · exact .start
    · exact Passes.start.confirmed rfl standby cycle
  | onTakeoverToken cycle token draw =>
    refine Or.inl ?_
    simp only [act]
    rcases tokenCases site.rs cycle token draw with equal | ⟨standby, _, same⟩
    · rw [equal]
      exact .start
    · exact (Passes.start.confirmed rfl standby cycle).quiet (unmovedSame same)
  | noteLostContact => exact Or.inl (Passes.start.lost rfl)
  | shutdown => exact Or.inl (Passes.start.quiet (by constructor <;> rfl))

def Wire (frameSize : Nat) (faulted live : Bool) (raw : Bytes) : Prop :=
  ∃ singleMode cycle region, raw = encodeFrame frameSize faulted singleMode cycle live region

theorem wireValid {frameSize : Nat} {faulted live : Bool} {raw : Bytes} (room : frameOverhead < frameSize)
    (wire : Wire frameSize faulted live raw) : frameValid frameSize raw = live := by
  obtain ⟨singleMode, cycle, region, rfl⟩ := wire
  have valid := encodedValid faulted singleMode cycle live region [] room
  rwa [List.append_nil] at valid

theorem decodedWire {rs : RteSiteRole} {faulted live : Bool} {raw : Bytes} (room : frameOverhead < rs.cfg.frameSize)
    (wire : Wire rs.cfg.frameSize faulted live raw) :
    (decodeFrame (buffered rs raw)).peerFaulted = faulted ∧
      (decodeFrame (buffered rs raw)).peerOnlineNow = (live && !faulted) := by
  obtain ⟨singleMode, cycle, region, rfl⟩ := wire
  have size := encodedLength faulted singleMode cycle live region room
  have whole : (encodeFrame rs.cfg.frameSize faulted singleMode cycle live region).take rs.cfg.frameSize =
      encodeFrame rs.cfg.frameSize faulted singleMode cycle live region := List.take_of_length_le size.le
  have valid := encodedValid faulted singleMode cycle live region
    (rs.rxBuf.drop (encodeFrame rs.cfg.frameSize faulted singleMode cycle live region).length) room
  simp only [decodeFrame, buffered, Bytes.overwrite, whole, encodedFaulted, valid, true_and]

theorem sentFrame {site : Site} {a : Action} {raw : Bytes} (sent : (act site a).2 = some raw) :
    (∃ own, a.facts = some own ∧ Wire site.rs.cfg.frameSize own.faulted site.rs.online raw ∧
        (act site a).1.rs.localFaulted = own.faulted ∧ (act site a).1.rs.online = site.rs.online) ∨
      (∃ singleMode region, a = .flushFaulted singleMode region) ∧
        Wire site.rs.cfg.frameSize true false raw := by
  cases a with
  | begin cycle own io =>
    cases up : linkUp site.rs io
    · simp [act, (beginClosed cycle own up).1] at sent
    · obtain ⟨frame, ⟨kept, equal⟩⟩ := beginOpen cycle own up
      simp only [act, frame, Option.some.injEq] at sent
      refine Or.inl ⟨own, rfl, ⟨_, _, _, sent.symm⟩, ?_, ?_⟩ <;> simp only [act, equal] <;> rfl
  | syncStandby cycle own region status =>
    obtain ⟨kept, equal⟩ := syncSame site.rs cycle own region status
    refine Or.inl ⟨own, rfl, ?_, ?_, ?_⟩
    · simp only [act, siteRoleSyncStandby] at sent
      split at sent
      · cases sent
        exact ⟨_, _, _, rfl⟩
      · cases sent
    · simp only [act, equal]
      rfl
    · simp only [act, equal]
      rfl
  | flushFaulted singleMode region =>
    simp only [act, siteRoleFlushFaulted] at sent
    split at sent
    · cases sent
      exact Or.inr ⟨⟨singleMode, region, rfl⟩, _, _, _, rfl⟩
    · cases sent
  | finish delivery =>
    simp only [act] at sent
    split at sent <;> cases sent
  | _ => cases sent

theorem stepOwn (s : Sites) (p : Party) (a : Action) : (step s (p, a)).get p = (act (s.get p) a).1 := by
  simp [step, Sites.get]

theorem stepOther (s : Sites) (p : Party) (a : Action) :
    (step s (p, a)).get p.other =
      { s.get p.other with inbox := (s.get p.other).inbox ++ (act (s.get p) a).2.toList } := by
  simp [step, Sites.get]

theorem arrived {site other : Site} {a : Action} {raw : Bytes}
    (member : raw ∈ other.inbox ++ (act site a).2.toList) : raw ∈ other.inbox ∨ (act site a).2 = some raw := by
  rcases List.mem_append.mp member with old | new
  · exact Or.inl old
  · exact Or.inr (by simpa using new)

theorem stepBoth {R : Site → Site → Prop} {s : Sites} {p : Party} {a : Action}
    (own : R (act (s.get p) a).1 { s.get p.other with inbox := (s.get p.other).inbox ++ (act (s.get p) a).2.toList })
    (other : R { s.get p.other with inbox := (s.get p.other).inbox ++ (act (s.get p) a).2.toList }
      (act (s.get p) a).1) : ∀ q, R ((step s (p, a)).get q) ((step s (p, a)).get q.other) := by
  intro q
  rcases Party.eqOrOther p q with rfl | rfl
  · rw [stepOwn, stepOther]
    exact own
  · rw [Party.otherOther, stepOwn, stepOther]
    exact other

theorem readySize {s : Sites} (ready : Ready s) (p : Party) :
    (s.get p.other).rs.cfg.frameSize = (s.get p).rs.cfg.frameSize := by
  cases p with
  | one => exact ready.frameSize
  | two => exact ready.frameSize.symm

def linkBroke : Delivery := .failed ⟨.hardwareFault, by decide⟩

def noFrame : Delivery := .failed ⟨.timeout, by decide⟩

def eastOnline : Sites :=
  let started := siteRoleStart (initialState (smallSite false)) olderStart
  { at_ := ⟨⟨initialState (smallSite true), none, [], none⟩,
      ⟨(started.map Prod.fst).getD (initialState (smallSite false)), none, [], none⟩⟩
    log := [] }

theorem eastOnlineReady : Ready eastOnline := by
  have room : ∀ isWest, siteRoleInit (smallSite isWest) = .ok (initialState (smallSite isWest)) := by
    intro isWest
    simp [siteRoleInit, smallSite, frameOverhead]
  refine ⟨?_, rfl, rfl, rfl, ?_, rfl⟩
  · rintro (_ | _)
    · exact ⟨_, smallSiteReady true, rfl⟩
    · have start : siteRoleStart (initialState (smallSite false)) olderStart =
          some ((eastOnline.get .two).rs, .ok) := rfl
      exact ⟨_, .started (room false) start, rfl⟩
  · rintro (_ | _) <;> rfl

end PlatformRte.SiteRole.TwoSite
