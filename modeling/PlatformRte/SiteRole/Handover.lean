import PlatformRte.SiteRole.FrameTrip
import PlatformRte.SiteRole.Yield
import PlatformRte.StateTransfer.RoundTrip

/-! The application state across a takeover. Both sites declare the same fields to
rte_state_transfer; encode_state packs them, receive_state keeps the valid regions, and a
change with apply_state unpacks the one kept last. -/
namespace PlatformRte.SiteRole.Handover
open Bytes Machine RteSiteRole Memory StateTransfer TwoSite
open Yield (reportedNone reportedOne)

structure Application where
  memory : Memory
  kept : Option Bytes

section Callbacks
-- What is declared, the empty state, and the size of the state region.
variable (registry : StateTransferRegistry) (blank : Memory) (size : Nat)

def pack (state : Memory) : EncodeResult :=
  stateTransferEncode (some registry) state (some (List.replicate size 0)) (UInt64.ofNat size) none

def regionOf (state : Memory) : Bytes := (pack registry size state).out.getD []

def stated (app : Application) (live : Bool) : Memory := if live then app.memory else blank

-- called: what receive_state is called with, if it is called.
def receiveState (kept : Option Bytes) (called : Option (Bytes × Bool)) (accepted : Bool) : Option Bytes :=
  match called with
  | some (region, true) => if accepted then some region else kept
  | _ => kept

def unpack (kept : Option Bytes) (memory : Memory) : Memory × RteStatus :=
  stateTransferDecode (some registry) kept (UInt64.ofNat size) memory

/- With apply_state the snapshot is taken over, or the application starts cold without one. -/
def onChange (app : Application) (change : SiteRoleChange) : Application :=
  if change.applyState then
    { app with memory := if change.snapshotValid then (unpack registry size app.kept app.memory).1 else blank }
  else app

end Callbacks

def drainKept (rs : RteSiteRole) : Nat → List ReceiveAnswer → Option Bytes → Option Bytes
  | 0, _, kept => kept
  | _ + 1, [], kept => kept
  | n + 1, reply :: rest, kept =>
      let received := receiveFrame rs reply
      let kept := receiveState kept (receivedState rs reply) reply.accepted
      if received.2 = .ok then drainKept received.1 n rest kept else kept

def keptAfter (site : Site) (kept : Option Bytes) : Action → Option Bytes
  | .finish delivery =>
      let reply := answer site.inbox delivery
      if site.pending.isSome then receiveState kept (receivedState site.rs reply) reply.accepted else kept
  | .serviceLink cycle deliveries =>
      if site.rs.link then drainKept { site.rs with cycle := cycle } serviceDrain (answers site.inbox deliveries).1 kept
      else kept
  | _ => kept

def carriesLive (site : Site) : Action → Bool
  | .flushFaulted .. => false
  | _ => site.rs.online

def handed (region : Bytes) : Action → Action
  | .begin cycle own io => .begin cycle own { io with region := region }
  | .syncStandby cycle own _ status => .syncStandby cycle own region status
  | .flushFaulted singleMode _ => .flushFaulted singleMode region
  | a => a

structure Sent where
  party : Party
  state : Memory
  live : Bool
  cycle : UInt32
  frame : Bytes

structure Adoption where
  party : Party
  change : SiteRoleChange
  before : Memory
  after : Memory

structure World where
  sites : Sites
  apps : Pair Application
  sent : List Sent
  adopted : List Adoption

inductive Event where
  -- the application goes on working
  | work (p : Party) (memory : Memory)
  | call (p : Party) (a : Action)

section Step
variable (registry : StateTransferRegistry) (blank : Memory) (size : Nat)

def sentBy (p : Party) (state : Memory) (live : Bool) (acted : Site × Option Bytes) : List Sent :=
  acted.2.toList.map fun frame => ⟨p, state, live, acted.1.rs.cycle, frame⟩

def follow (app : Application) (changes : List SiteRoleChange) : Application :=
  changes.foldr (fun change app => onChange registry blank size app change) app

def step (w : World) : Event → World
  | .work p memory => { w with apps := w.apps.set p { w.apps.get p with memory := memory } }
  | .call p a =>
      let site := w.sites.get p
      let app := w.apps.get p
      let live := carriesLive site a
      let state := stated blank app live
      let call := handed (regionOf registry size state) a
      let acted := act site call
      let told : Application := { app with kept := keptAfter site app.kept call }
      let changes := (reported p site.rs acted.1.rs).map Prod.snd
      let after := follow registry blank size told changes
      { sites := TwoSite.step w.sites (p, call)
        apps := w.apps.set p after
        sent := sentBy p state live acted ++ w.sent
        adopted := changes.map (fun change => ⟨p, change, app.memory, after.memory⟩) ++ w.adopted }

end Step

structure Ready (w : World) (frameSize : Nat) : Prop where
  fresh : ∀ p, ∃ rs, SetUp rs ∧ w.sites.get p = ⟨rs, none, [], none⟩ ∧ rs.cfg.frameSize = frameSize
  sent : w.sent = []
  adopted : w.adopted = []

section Packing
variable {registry : StateTransferRegistry} {object : StateField → LiveObject} {size : Nat} {state : Memory}

theorem packedUnpacks (transferable : Transferable registry.fields object)
    (fits : (sizes registry.fields).sum < 2 ^ 64) (small : size < 2 ^ 64)
    (packed : (pack registry size state).status = .ok) (memory : Memory) :
    (unpack registry size (some (fit size (regionOf registry size state))) memory).2 = .ok ∧
      ChangesOnly (registry.fields.map fun f => f.region (object f)) memory
        (unpack registry size (some (fit size (regionOf registry size state))) memory).1 ∧
      ∀ f ∈ registry.fields, f.valueIn (object f)
        (unpack registry size (some (fit size (regionOf registry size state))) memory).1 = f.valueIn (object f) state := by
  have inverts := transferable.inverts
  have given : (UInt64.ofNat size).toNat = size := UInt64.toNat_ofNat_of_lt' small
  have enough : ¬UInt64.ofNat size < stateTransferEncodedSize (some registry) := by
    intro short
    rw [pack, encodeNoRoom registry state _ none short] at packed
    cases packed
  obtain ⟨pieces, pieced, done⟩ := encodeDone inverts fits (by rw [given, List.length_replicate]) packed
  have total : (sizes registry.fields).sum ≤ size := by
    have sum : (stateTransferEncodedSize (some registry)).toNat = (sizes registry.fields).sum := encodedSizeSum fits
    have room := UInt64.le_iff_toNat_le.mp (UInt64.not_lt.mp enough)
    rwa [sum, given] at room
  have region : regionOf registry size state =
      pieces.flatten ++ (List.replicate size 0).drop (sizes registry.fields).sum := by
    rw [regionOf, pack, done]
    rfl
  have whole : fit size (regionOf registry size state) = regionOf registry size state := by
    have length : (regionOf registry size state).length = size := by
      rw [region, List.length_append, packedLength pieced, List.length_drop, List.length_replicate]
      omega
    rw [fit, List.take_of_length_le (Nat.le_of_eq length), length, Nat.sub_self, List.replicate_zero, List.append_nil]
  have start : (0 : UInt64).toNat + (sizes registry.fields).sum = (sizes registry.fields).sum := Nat.zero_add _
  rw [whole]
  simp only [unpack, stateTransferDecode, if_neg enough]
  exact decodeFieldsRestore inverts transferable.apart pieced (start.trans_lt fits) region memory

end Packing

section Held
variable {registry : StateTransferRegistry} {frameSize : Nat} {sent : List Sent} {p : Party} {rs rs' : RteSiteRole}
  {kept : Option Bytes}

def inRegion (registry : StateTransferRegistry) (frameSize : Nat) (state : Memory) : Bytes :=
  fit (stateSize frameSize) (regionOf registry (stateSize frameSize) state)

def Framed (registry : StateTransferRegistry) (frameSize : Nat) (s : Sent) : Prop :=
  ∃ faulted singleMode, s.frame = encodeFrame frameSize faulted singleMode s.cycle s.live
    (regionOf registry (stateSize frameSize) s.state)

def Backed (registry : StateTransferRegistry) (frameSize : Nat) (sent : List Sent) (p : Party) (cycle : UInt32)
    (kept : Option Bytes) : Prop :=
  ∃ s ∈ sent, s.party = p.other ∧ s.live = true ∧ s.cycle = cycle ∧ kept = some (inRegion registry frameSize s.state)

def snapshotOf (rs : RteSiteRole) : Nat × Bool × UInt32 :=
  (rs.cfg.frameSize, rs.peerSnapshotValid, rs.peerSnapshotCycle)

structure Held (registry : StateTransferRegistry) (frameSize : Nat) (sent : List Sent) (p : Party) (rs : RteSiteRole)
    (kept : Option Bytes) : Prop where
  sized : rs.cfg.frameSize = frameSize
  backed : rs.peerSnapshotValid = true → Backed registry frameSize sent p rs.peerSnapshotCycle kept

theorem heldSame (held : Held registry frameSize sent p rs kept) (same : snapshotOf rs' = snapshotOf rs) :
    Held registry frameSize sent p rs' kept := by
  simp only [snapshotOf, Prod.mk.injEq] at same
  obtain ⟨size, valid, cycle⟩ := same
  refine ⟨size.trans held.sized, fun holds => ?_⟩
  rw [cycle]
  exact held.backed (valid ▸ holds)

def Arrives (registry : StateTransferRegistry) (frameSize : Nat) (sent : List Sent) (p : Party) (raw : Bytes) : Prop :=
  ∃ s ∈ sent, s.party = p.other ∧ s.frame = raw ∧ Framed registry frameSize s

theorem receiveHeld (room : frameOverhead < frameSize) (held : Held registry frameSize sent p rs kept)
    {reply : ReceiveAnswer} (arrives : reply.status = .ok → Arrives registry frameSize sent p reply.payload) :
    Held registry frameSize sent p (receiveFrame rs reply).1
      (receiveState kept (receivedState rs reply) reply.accepted) := by
  obtain ⟨status, payload, accepted⟩ := reply
  by_cases received : status = .ok
  · subst received
    obtain ⟨s, member, from_, rfl, faulted, singleMode, framed⟩ := arrives rfl
    have called : receivedState rs ⟨.ok, s.frame, accepted⟩ = some (inRegion registry frameSize s.state, s.live) := by
      rw [framed]
      exact frameStated rs faulted singleMode s.cycle s.live _ accepted room held.sized
    dsimp only
    rw [called]
    cases accepted
    · obtain ⟨buffer, equal⟩ : Unlearned rs (receiveFrame rs ⟨.ok, s.frame, false⟩).1 := refusedUnlearned rfl
      have same : receiveState kept (some (inRegion registry frameSize s.state, s.live)) false = kept := by
        cases s.live <;> rfl
      rw [equal, same]
      exact heldSame held rfl
    · have decoded : (receiveFrame rs ⟨.ok, s.frame, true⟩).1 = decodeFrame (buffered rs s.frame) :=
        acceptedDecoded (by rw [called]; rfl) rfl
      have learned : Learned faulted singleMode s.cycle s.live rs (decodeFrame (buffered rs s.frame)) := by
        rw [framed]
        exact frameLearned rs faulted singleMode s.cycle s.live _ room held.sized
      rw [decoded]
      refine ⟨held.sized, fun holds => ?_⟩
      cases live : s.live
      · obtain ⟨cycle, valid, _⟩ := learned.noSnapshot live
        rw [cycle]
        exact held.backed (valid ▸ holds)
      · obtain ⟨cycle, _, _⟩ := learned.snapshot live
        rw [cycle]
        exact ⟨s, member, from_, live, rfl, rfl⟩
  · have uncalled : receivedState rs ⟨status, payload, accepted⟩ = none := if_neg fun called => received called.1
    obtain ⟨buffer, equal⟩ := uncalledUnlearned uncalled
    rw [equal, uncalled]
    exact heldSame held rfl

theorem drainHeld (room : frameOverhead < frameSize) (n : Nat) (replies : List ReceiveAnswer)
    (held : Held registry frameSize sent p rs kept)
    (arrive : ∀ reply ∈ replies, reply.status = .ok → Arrives registry frameSize sent p reply.payload) :
    Held registry frameSize sent p (drainLink rs n replies) (drainKept rs n replies kept) := by
  induction n generalizing rs replies kept with
  | zero => simpa [drainLink, drainKept] using held
  | succ n ih =>
    cases replies with
    | nil => exact held
    | cons reply rest =>
      have next := receiveHeld room held (arrive reply List.mem_cons_self)
      simp only [drainLink, drainKept]
      split
      · exact ih rest next fun later member => arrive later (List.mem_cons_of_mem reply member)
      · exact next

theorem droppedHeld (held : Held registry frameSize sent p rs kept) :
    Held registry frameSize sent p (staleDropped rs) kept := by
  refine ⟨held.sized, fun holds => held.backed ?_⟩
  rw [staleDropped, Bool.and_eq_true] at holds
  exact holds.1

theorem receiveChanges (rs : RteSiteRole) (reply : ReceiveAnswer) : changes (receiveFrame rs reply).1 = changes rs := by
  rcases receiveCases rs reply with ⟨_, equal⟩ | ⟨_, _, equal⟩ <;> rw [equal] <;> rfl

theorem drainChanges (rs : RteSiteRole) (n : Nat) (replies : List ReceiveAnswer) :
    changes (drainLink rs n replies) = changes rs :=
  drainRule (P := fun s => changes s = changes rs) (fun _ _ same => same) (fun _ same => same) n replies rfl

def Reports (registry : StateTransferRegistry) (frameSize : Nat) (sent : List Sent) (p : Party) (kept : Option Bytes)
    (before after : RteSiteRole) : Prop :=
  changes after = changes before ∨ ∃ change, changes after = change :: changes before ∧
    (change.snapshotValid = true → Backed registry frameSize sent p change.snapshotCycle kept)

theorem decidedReports {s s' : RteSiteRole} {own : SiteRoleLocal} (held : Held registry frameSize sent p s kept)
    (step : Decided s own s') :
    Held registry frameSize sent p s' kept ∧ Reports registry frameSize sent p kept s s' := by
  cases step with
  | promoted _ same =>
    obtain ⟨_, rfl⟩ := same
    exact ⟨heldSame held rfl, Or.inr ⟨_, rfl, held.backed⟩⟩
  | demoted _ same =>
    obtain ⟨_, rfl⟩ := same
    exact ⟨heldSame held rfl, Or.inr ⟨_, rfl, held.backed⟩⟩
  | renegotiated _ same =>
    obtain ⟨_, rfl⟩ := same
    exact ⟨heldSame held rfl, Or.inr ⟨_, rfl, held.backed⟩⟩
  | kept _ _ _ same =>
    obtain ⟨_, rfl⟩ := same
    exact ⟨heldSame held rfl, Or.inl rfl⟩

theorem quietReports (held : Held registry frameSize sent p rs kept) (same : snapshotOf rs' = snapshotOf rs)
    (silent : changes rs' = changes rs) :
    Held registry frameSize sent p rs' kept ∧ Reports registry frameSize sent p kept rs rs' :=
  ⟨heldSame held same, Or.inl silent⟩

theorem actReports (room : frameOverhead < frameSize) {site : Site} (a : Action)
    (held : Held registry frameSize sent p site.rs kept)
    (arrive : ∀ raw ∈ site.inbox, Arrives registry frameSize sent p raw) :
    Held registry frameSize sent p (act site a).1.rs (keptAfter site kept a) ∧
      Reports registry frameSize sent p (keptAfter site kept a) site.rs (act site a).1.rs := by
  have quiet {s s' : RteSiteRole} (same : Same s s') (before : snapshotOf s = snapshotOf site.rs)
      (silent : changes s = changes site.rs) :
      Held registry frameSize sent p s' kept ∧ Reports registry frameSize sent p kept site.rs s' := by
    obtain ⟨_, rfl⟩ := same
    exact quietReports held before silent
  cases a with
  | begin cycle own io =>
    simp only [act, keptAfter]
    cases up : linkUp site.rs io
    · obtain ⟨_, step⟩ := beginClosed cycle own up
      have started : Held registry frameSize sent p (opened site.rs cycle own io.siblingFrame false) kept :=
        heldSame held rfl
      obtain ⟨held', reports⟩ := decidedReports started step
      exact ⟨held', reports⟩
    · obtain ⟨_, same⟩ := beginOpen cycle own up
      exact quiet same rfl rfl
  | finish delivery =>
    simp only [act, keptAfter]
    cases pending : site.pending with
    | none => exact quietReports held rfl rfl
    | some sending =>
      obtain ⟨own, sendOk⟩ := sending
      have comes : (answer site.inbox delivery).status = .ok →
          Arrives registry frameSize sent p (answer site.inbox delivery).payload := fun ok => arrive _ (answerPayload ok)
      have received := receiveHeld room held comes
      have silent := receiveChanges site.rs (answer site.inbox delivery)
      obtain ⟨s', step, last⟩ := finishDecided (sameRefl site.rs) own sendOk (answer site.inbox delivery)
      obtain ⟨held', reports⟩ := decidedReports (droppedHeld received) step
      simp only [Reports] at reports
      rw [show changes (staleDropped (receiveFrame site.rs (answer site.inbox delivery)).1) = changes site.rs from silent]
        at reports
      simp only [Option.isSome_some, if_true]
      rcases last with ⟨_, equal⟩ | ⟨_, _, equal⟩ <;> rw [equal] <;> exact ⟨heldSame held' rfl, reports⟩
  | serviceLink cycle deliveries =>
    simp only [act, keptAfter, siteRoleServiceLink]
    split
    · have ticked : Held registry frameSize sent p { site.rs with cycle := cycle } kept := heldSame held rfl
      have drained := drainHeld room serviceDrain (answers site.inbox deliveries).1 ticked fun reply member ok =>
        arrive _ (answersSub.1 reply member ok)
      exact ⟨drained, Or.inl (drainChanges { site.rs with cycle := cycle } serviceDrain _)⟩
    · exact quietReports held rfl rfl
  | syncStandby cycle own region status => exact quiet (syncSame site.rs cycle own region status) rfl rfl
  | flushFaulted singleMode region => exact quietReports held rfl rfl
  | onTakeoverConfirm cycle =>
    simp only [act, keptAfter]
    rcases confirmCases site.rs cycle with equal | ⟨_, _, equal⟩ <;> rw [equal] <;> exact quietReports held rfl rfl
  | onTakeoverToken cycle token draw =>
    simp only [act, keptAfter]
    rcases tokenCases site.rs cycle token draw with equal | ⟨_, _, same⟩
    · rw [equal]
      exact quietReports held rfl rfl
    · exact quiet same rfl rfl
  | noteLostContact => exact quietReports held rfl rfl
  | shutdown => exact quietReports held rfl rfl

end Held

theorem handedFrame {site : Site} {a : Action} {region raw : Bytes} (sent : (act site (handed region a)).2 = some raw) :
    ∃ faulted singleMode, raw = encodeFrame site.rs.cfg.frameSize faulted singleMode
      (act site (handed region a)).1.rs.cycle (carriesLive site a) region := by
  cases a with
  | begin cycle own io =>
    simp only [handed] at sent ⊢
    cases up : linkUp site.rs { io with region := region }
    · simp [act, (beginClosed cycle own up).1] at sent
    · obtain ⟨frame, ⟨kept, equal⟩⟩ := beginOpen cycle own up
      simp only [act, frame, Option.some.injEq] at sent
      refine ⟨own.faulted, own.singleMode, ?_⟩
      simp only [act, equal, ← sent, carriesLive]
      rfl
  | syncStandby cycle own _ status =>
    obtain ⟨kept, equal⟩ := syncSame site.rs cycle own region status
    simp only [handed, act, siteRoleSyncStandby] at sent
    split at sent
    · cases sent
      refine ⟨own.faulted, own.singleMode, ?_⟩
      simp only [handed, act, equal, carriesLive]
      rfl
    · cases sent
  | flushFaulted singleMode _ =>
    simp only [handed, act, siteRoleFlushFaulted] at sent
    split at sent
    · cases sent
      exact ⟨true, singleMode, rfl⟩
    · cases sent
  | finish delivery =>
    simp only [handed, act] at sent
    split at sent <;> cases sent
  | _ => cases sent

/- What a change with apply_state and a valid snapshot has done to the application: its
fields hold what the counterpart's held when it was ONLINE, in the cycle that is told. -/
def TakenOver (registry : StateTransferRegistry) (object : StateField → LiveObject) (frameSize : Nat)
    (sent : List Sent) (a : Adoption) : Prop :=
  a.change.applyState = true → a.change.snapshotValid = true →
    ∃ s ∈ sent, s.party = a.party.other ∧ s.live = true ∧ s.cycle = a.change.snapshotCycle ∧
      ((pack registry (stateSize frameSize) s.state).status = .ok →
        ChangesOnly (registry.fields.map fun f => f.region (object f)) a.before a.after ∧
          ∀ f ∈ registry.fields, f.valueIn (object f) a.after = f.valueIn (object f) s.state)

section Runs
variable {registry : StateTransferRegistry} {object : StateField → LiveObject} {blank : Memory} {frameSize : Nat}
  {sent sent' : List Sent} {p : Party}

theorem backedMore {cycle : UInt32} {kept : Option Bytes} (more : sent ⊆ sent')
    (backed : Backed registry frameSize sent p cycle kept) : Backed registry frameSize sent' p cycle kept := by
  obtain ⟨s, member, rest⟩ := backed
  exact ⟨s, more member, rest⟩

theorem heldMore {rs : RteSiteRole} {kept : Option Bytes} (more : sent ⊆ sent')
    (held : Held registry frameSize sent p rs kept) : Held registry frameSize sent' p rs kept :=
  ⟨held.sized, fun holds => backedMore more (held.backed holds)⟩

theorem arrivesMore {raw : Bytes} (more : sent ⊆ sent') (arrives : Arrives registry frameSize sent p raw) :
    Arrives registry frameSize sent' p raw := by
  obtain ⟨s, member, rest⟩ := arrives
  exact ⟨s, more member, rest⟩

theorem takenOverMore {a : Adoption} (more : sent ⊆ sent') (taken : TakenOver registry object frameSize sent a) :
    TakenOver registry object frameSize sent' a := by
  intro applies valid
  obtain ⟨s, member, rest⟩ := taken applies valid
  exact ⟨s, more member, rest⟩

structure Sound (registry : StateTransferRegistry) (object : StateField → LiveObject) (frameSize : Nat) (w : World) :
    Prop where
  held : ∀ p, Held registry frameSize w.sent p (w.sites.get p).rs (w.apps.get p).kept
  arrive : ∀ p, ∀ raw ∈ (w.sites.get p).inbox, Arrives registry frameSize w.sent p raw
  adopted : ∀ a ∈ w.adopted, TakenOver registry object frameSize w.sent a

theorem followedTakenOver (transferable : Transferable registry.fields object)
    (fits : (sizes registry.fields).sum < 2 ^ 64) (small : stateSize frameSize < 2 ^ 64) {told : Application}
    {change : SiteRoleChange}
    (backed : change.snapshotValid = true → Backed registry frameSize sent p change.snapshotCycle told.kept) :
    TakenOver registry object frameSize sent
      ⟨p, change, told.memory, (onChange registry blank (stateSize frameSize) told change).memory⟩ := by
  intro applies valid
  dsimp only at applies valid
  obtain ⟨s, member, from_, live, cycle, kept⟩ := backed valid
  refine ⟨s, member, from_, live, cycle, fun packed => ?_⟩
  obtain ⟨_, only, restored⟩ := packedUnpacks transferable fits small packed told.memory
  simp only [onChange, applies, valid, if_true, kept]
  exact ⟨only, restored⟩

theorem reportsFollowed (transferable : Transferable registry.fields object)
    (fits : (sizes registry.fields).sum < 2 ^ 64) (small : stateSize frameSize < 2 ^ 64) (blank : Memory)
    {told : Application} {before after : RteSiteRole} (reports : Reports registry frameSize sent p told.kept before after) :
    (follow registry blank (stateSize frameSize) told ((reported p before after).map Prod.snd)).kept = told.kept ∧
      ∀ change ∈ (reported p before after).map Prod.snd, TakenOver registry object frameSize sent
        ⟨p, change, told.memory,
          (follow registry blank (stateSize frameSize) told ((reported p before after).map Prod.snd)).memory⟩ := by
  rcases reports with silent | ⟨change, new, backed⟩
  · rw [reportedNone silent]
    exact ⟨rfl, fun _ member => absurd member List.not_mem_nil⟩
  · rw [reportedOne new]
    refine ⟨?_, fun other member => ?_⟩
    · simp only [follow, List.map_cons, List.map_nil, List.foldr_cons, List.foldr_nil, onChange]
      split <;> rfl
    · cases List.mem_singleton.mp member
      exact followedTakenOver transferable fits small backed

theorem soundStep (transferable : Transferable registry.fields object)
    (fits : (sizes registry.fields).sum < 2 ^ 64) (room : frameOverhead < frameSize)
    (small : stateSize frameSize < 2 ^ 64) (w : World) (e : Event) (sound : Sound registry object frameSize w) :
    Sound registry object frameSize (step registry blank (stateSize frameSize) w e) := by
  cases e with
  | work p memory =>
    refine ⟨fun q => ?_, sound.arrive, sound.adopted⟩
    have same : ((w.apps.set p { w.apps.get p with memory := memory }).get q).kept = (w.apps.get q).kept := by
      rcases Party.eqOrOther p q with rfl | rfl
      · rw [Pair.getSet]
      · rw [Pair.getSetOther]
    simp only [step, same]
    exact sound.held q
  | call p a =>
    let site := w.sites.get p
    let app := w.apps.get p
    let live := carriesLive site a
    let state := stated blank app live
    let call := handed (regionOf registry (stateSize frameSize) state) a
    let acted := act site call
    let sent := sentBy p state live acted ++ w.sent
    let told : Application := { app with kept := keptAfter site app.kept call }
    let after := follow registry blank (stateSize frameSize) told ((reported p site.rs acted.1.rs).map Prod.snd)
    have more : w.sent ⊆ sent := List.subset_append_right _ _
    obtain ⟨held, reports⟩ := actReports room call (heldMore more (sound.held p)) fun raw waits =>
      arrivesMore more (sound.arrive p raw waits)
    have followed : after.kept = told.kept ∧ ∀ change ∈ (reported p site.rs acted.1.rs).map Prod.snd,
        TakenOver registry object frameSize sent ⟨p, change, told.memory, after.memory⟩ :=
      reportsFollowed transferable fits small blank reports
    refine ⟨fun q => ?_, fun q raw waits => ?_, fun b member => ?_⟩
    · change Held registry frameSize sent q ((TwoSite.step w.sites (p, call)).get q).rs ((w.apps.set p after).get q).kept
      rcases Party.eqOrOther p q with rfl | rfl
      · rw [stepOwn, Pair.getSet, followed.1]
        exact held
      · rw [stepOther, Pair.getSetOther]
        exact heldMore more (sound.held _)
    · change raw ∈ ((TwoSite.step w.sites (p, call)).get q).inbox at waits
      change Arrives registry frameSize sent q raw
      rcases Party.eqOrOther p q with rfl | rfl
      · rw [stepOwn] at waits
        exact arrivesMore more (sound.arrive _ raw (inboxSub site call waits))
      · rw [stepOther] at waits
        rcases arrived waits with old | new
        · exact arrivesMore more (sound.arrive _ raw old)
        · obtain ⟨faulted, singleMode, framed⟩ := handedFrame new
          have listed : (⟨p, state, live, acted.1.rs.cycle, raw⟩ : Sent) ∈ sentBy p state live acted :=
            List.mem_map.mpr ⟨raw, Option.mem_toList.mpr new, rfl⟩
          rw [(sound.held p).sized] at framed
          exact ⟨_, List.mem_append_left _ listed, (Party.otherOther p).symm, rfl, faulted, singleMode, framed⟩
    · rcases List.mem_append.mp member with new | old
      · obtain ⟨change, reported_, rfl⟩ := List.mem_map.mp new
        exact followed.2 change reported_
      · exact takenOverMore more (sound.adopted b old)

theorem initByte {cfg : SiteRoleConfig} {rs : RteSiteRole} (init : siteRoleInit cfg = .ok rs) :
    rs.cfg.frameSize = cfg.frameSize ∧ frameOverhead < cfg.frameSize ∧ cfg.frameSize ≤ 255 := by
  obtain ⟨rfl, room⟩ := initRoom init
  refine ⟨rfl, room, ?_⟩
  unfold siteRoleInit at init
  split at init
  · cases init
  · rename_i valid
    exact Nat.le_of_not_lt fun long => valid (Or.inr (Or.inl long))

theorem setUpByte {rs : RteSiteRole} (setUp : SetUp rs) : frameOverhead < rs.cfg.frameSize ∧ rs.cfg.frameSize ≤ 255 := by
  cases setUp with
  | initialized init =>
    obtain ⟨size, room, byte⟩ := initByte init
    exact size ▸ ⟨room, byte⟩
  | started init start =>
    obtain ⟨size, room, byte⟩ := initByte init
    obtain ⟨_, _, _, _, ⟨_, rfl⟩, _⟩ := startSame start
    exact size ▸ ⟨room, byte⟩

/- Over every run of the pair, with frames lost or late: a change that presents a snapshot
makes the declared fields what they were at the counterpart, ONLINE, when it sent one frame. -/
theorem takeoverKeepsState {w : World} (ready : Ready w frameSize) (transferable : Transferable registry.fields object)
    (fits : (sizes registry.fields).sum < 2 ^ 64) (blank : Memory) (events : List Event) :
    ∀ a ∈ (run (step registry blank (stateSize frameSize)) w events).adopted, TakenOver registry object frameSize
      (run (step registry blank (stateSize frameSize)) w events).sent a := by
  obtain ⟨rs, setUp, _, rfl⟩ := ready.fresh .one
  obtain ⟨room, byte⟩ := setUpByte setUp
  have small : stateSize rs.cfg.frameSize < 2 ^ 64 :=
    Nat.lt_of_le_of_lt ((Nat.sub_le _ _).trans byte) (by decide)
  have start : Sound registry object rs.cfg.frameSize w := by
    refine ⟨fun p => ?_, fun p raw waits => ?_, fun a member => ?_⟩
    · obtain ⟨own, fresh, given, size⟩ := ready.fresh p
      rw [given]
      refine ⟨size, fun holds => ?_⟩
      obtain ⟨_, _, _, _, _, _, ⟨_, rfl⟩, _⟩ := setUpSame fresh
      cases holds
    · obtain ⟨_, _, given, _⟩ := ready.fresh p
      rw [given] at waits
      cases waits
    · rw [ready.adopted] at member
      cases member
  have sound : Sound registry object rs.cfg.frameSize
      (run (step registry blank (stateSize rs.cfg.frameSize)) w events) :=
    invariantRun start (fun m e sound (_ : True) => soundStep transferable fits room small m e sound)
      fun _ _ _ _ => trivial
  exact sound.adopted

end Runs

def stateSite (isWest : Bool) : SiteRoleConfig := { smallSite isWest with frameSize := 12 }

def noState : Memory := fun _ => 0

def countMemory (count : UInt8) : Memory := write noState 0 [count]

def statePair : World where
  sites :=
    { at_ := ⟨⟨initialState (stateSite true), none, [], none⟩,
        ⟨((siteRoleStart (initialState (stateSite false)) olderStart).map Prod.fst).getD
          (initialState (stateSite false)), none, [], none⟩⟩
      log := [] }
  apps := ⟨⟨noState, none⟩, ⟨noState, none⟩⟩
  sent := []
  adopted := []

def confirmedTakeover : List Event :=
  [.work .two (countMemory 7), .call .two (.begin 1 healthy silentCycle), .call .one (.begin 1 healthy silentCycle),
    .call .one (.finish (.frame 0 true)), .call .two (.finish noFrame), .work .two (countMemory 8),
    .call .one (.begin 2 healthy silentCycle), .call .one (.finish linkBroke), .call .one (.onTakeoverConfirm 3),
    .call .one (.begin 3 healthy noLink)]

theorem statePairReady : Ready statePair 12 := by
  have init (isWest : Bool) : siteRoleInit (stateSite isWest) = .ok (initialState (stateSite isWest)) := by
    simp [siteRoleInit, stateSite, smallSite, frameOverhead]
  refine ⟨?_, rfl, rfl⟩
  rintro (_ | _)
  · exact ⟨_, .initialized (init true), rfl, rfl⟩
  · have start : siteRoleStart (initialState (stateSite false)) olderStart = some ((statePair.sites.get .two).rs, .ok) :=
      rfl
    exact ⟨_, .started (init false) start, rfl, rfl⟩

theorem twoFieldsTransferable : Transferable twoFields.fields fun field => ⟨field.size.toNat, id⟩ := by
  refine ⟨fun field member plain => rfl, ?_, List.pairwise_pair.mpr (Or.inl (by decide))⟩
  intro field member given
  rcases List.mem_pair.mp member with rfl | rfl
  · cases given
  · exact flagsInverts

theorem takenOverFromEast :
    (run (step twoFields noState 5) statePair confirmedTakeover).adopted.map
        (fun a => (a.change.applyState, a.change.snapshotValid, a.after 0)) = [(true, true, 7)] ∧
      ∀ a ∈ (run (step twoFields noState 5) statePair confirmedTakeover).adopted,
        TakenOver twoFields (fun field => ⟨field.size.toNat, id⟩) 12
          (run (step twoFields noState 5) statePair confirmedTakeover).sent a :=
  ⟨by decide, takeoverKeepsState statePairReady twoFieldsTransferable (by decide) noState confirmedTakeover⟩

end PlatformRte.SiteRole.Handover
