import PlatformRte.SiteRole.Steady
import PlatformRte.Lib.Machine

/-! Whole runs over a link that delivers and a peer that acknowledges in time. -/
namespace PlatformRte.SiteRole
open PlatformRte.Dual PlatformRte.Dual.Channel PlatformRte.Dual.Listening Checksum Bytes Machine

namespace Station

def step (m : Option Station) (call : StationCall) : Option Station :=
  m.bind fun s => (s.call call).map Prod.fst

def Throughout (P : Station → StationCall → Prop) (m : Option Station) (call : StationCall) : Prop :=
  ∀ s, m = some s → P s call

def Along (P : Station → StationCall → Prop) (s : Station) (calls : List StationCall) : Prop :=
  Always step (Throughout P) (some s) calls

theorem stepCall {m : Option Station} {call : StationCall} {s' : Station} (stepped : step m call = some s') :
    ∃ s sent, m = some s ∧ s.call call = some (s', sent) := by
  obtain ⟨s, rfl, mapped⟩ := Option.bind_eq_some_iff.mp stepped
  obtain ⟨⟨_, sent⟩, done, rfl⟩ := Option.map_eq_some_iff.mp mapped
  exact ⟨s, sent, rfl, done⟩

def Holds (P : Station → Prop) (m : Option Station) : Prop := ∀ s, m = some s → P s

end Station

open Station in
/- Over a healthy link a configuration whose frames fit into the dual channel loses nothing, and one
whose frames do not fit loses every cycle. -/
theorem healthyLinkKept {cfg : SiteRoleConfig} {rs : RteSiteRole} {ackTimeoutMs : UInt32} {wire : Medium}
    {calls : List StationCall} (init : siteRoleInit cfg = .ok rs) (threshold : 1 ≤ cfg.sendMissThreshold)
    (budget : 0 < ackTimeoutMs) (healthy : Along Healthy ⟨rs, ackTimeoutMs, wire⟩ calls) :
    (cfg.frameSize ≤ dualChannelMaxPayload → wire.manager.initialized = true →
        Along Matching ⟨rs, ackTimeoutMs, wire⟩ calls → Along Kept ⟨rs, ackTimeoutMs, wire⟩ calls) ∧
      (dualChannelMaxPayload < cfg.frameSize → Along Refused ⟨rs, ackTimeoutMs, wire⟩ calls) := by
  obtain ⟨sameSize, sameThreshold, room, miss, closed⟩ := initFrame init
  refine ⟨fun small ready matching => ?_, fun large => ?_⟩
  · rw [← sameSize] at small
    rw [← sameThreshold] at threshold
    have both : Always Station.step (fun m call => Throughout Healthy m call ∧ Throughout Matching m call)
        (some ⟨rs, ackTimeoutMs, wire⟩) calls :=
      fun before call after split => ⟨healthy before call after split, matching before call after split⟩
    have start : Holds (Steady rs.cfg ackTimeoutMs) (some ⟨rs, ackTimeoutMs, wire⟩) := by
      rintro s ⟨⟩
      exact ⟨rfl, rfl, miss, ready, fun up => by rw [closed] at up; cases up⟩
    refine alwaysOfInvariant start ?_ ?_ both
    · rintro m call steady ⟨sound, fits⟩ s' stepped
      obtain ⟨s, sent, rfl, done⟩ := stepCall stepped
      exact (callKept room small threshold budget call (steady s rfl) (sound s rfl) (fits s rfl)).2 s' sent done
    · rintro m call steady ⟨sound, fits⟩ s rfl
      exact (callKept room small threshold budget call (steady s rfl) (sound s rfl) (fits s rfl)).1
  · rw [← sameSize] at large
    have start : Holds (fun s => s.rs.cfg = rs.cfg) (some ⟨rs, ackTimeoutMs, wire⟩) := by
      rintro s ⟨⟩
      rfl
    refine alwaysOfInvariant start ?_ ?_ healthy
    · rintro m call configured _ s' stepped
      obtain ⟨s, sent, rfl, done⟩ := stepCall stepped
      exact (callConfigured done).trans (configured s rfl)
    · rintro m call configured _ s rfl
      cases call with
      | execute cycle own io =>
        intro s' status done
        exact executeRefused (by rw [configured s rfl]; exact room) (by rw [configured s rfl]; exact large) done
      | _ => exact True.intro

def closedWire : Medium := ⟨freshChannel 1 2 1 Nat.one_pos oneLinkFew, readyManager⟩

def openingCycle (answers : List Answer) : CycleIo where
  siblingFrame := none
  draw := none
  reopen := ⟨.ok, 0⟩
  round := ⟨quiet, [], fun _ => 0⟩
  region := []
  send := answers
  receive := quiet
  accepted := true

def oversizeSite : SiteRoleConfig := { smallSite true with frameSize := 245, sendMissThreshold := 1 }

open Station in
/- The configuration is accepted and nothing is lost on the link, but the frame is refused, and the
first cycle closes the link again. -/
theorem oversizeTornDown :
    siteRoleInit oversizeSite = .ok (initialState oversizeSite) ∧ 1 ≤ oversizeSite.sendMissThreshold ∧
      Along Healthy ⟨initialState oversizeSite, 10, closedWire⟩ [.execute 1 healthy (openingCycle [])] ∧
      ((Station.mk (initialState oversizeSite) 10 closedWire).execute 1 healthy (openingCycle [])).map
        (fun done => (done.2, done.1.rs.link)) = some (some .invalidParam, false) ∧
      ¬Along Kept ⟨initialState oversizeSite, 10, closedWire⟩ [.execute 1 healthy (openingCycle [])] := by
  have init : siteRoleInit oversizeSite = .ok (initialState oversizeSite) := by
    simp [siteRoleInit, oversizeSite, smallSite, frameOverhead]
  have ran : ((Station.mk (initialState oversizeSite) 10 closedWire).execute 1 healthy (openingCycle [])).map
      (fun done => (done.2, done.1.rs.link)) = some (some .invalidParam, false) := by decide +kernel
  refine ⟨init, by decide, ?_, ran, fun kept => ?_⟩
  · refine alwaysCons.mpr ⟨?_, alwaysNil _ _ _⟩
    rintro _ ⟨⟩ negotiated opened heard
    obtain ⟨_, beacons, same⟩ := negotiateRefines heard
    have configured : negotiated.rs.cfg = (initialState oversizeSite).cfg := by
      rw [same]
      exact linkedCfg _ 1 SiteRole.healthy (openingCycle [])
    have length := ownLength (by decide) configured []
    refine ⟨fun comes => ?_, fun _ _ _ => rfl⟩
    have large : dualChannelMaxPayload < (ownFrame negotiated.rs []).length := by
      rw [length]
      decide
    have refused : startCall negotiated.wire.channel (.send (ownFrame negotiated.rs [])) =
        .inr (.exchange (some (ownFrame negotiated.rs [])) .invalidParam none none) := by
      rw [startCall, if_pos large]
    have never : (startCall negotiated.wire.channel (.send (ownFrame negotiated.rs []))).isLeft = true := comes
    rw [refused] at never
    cases never
  · obtain ⟨first, _⟩ := alwaysCons.mp kept
    obtain ⟨⟨s', sent⟩, executed, same⟩ := Option.map_eq_some_iff.mp ran
    have refused : sent = some .invalidParam := congrArg Prod.fst same
    subst refused
    have status := (first _ rfl).sends _ .invalidParam (by rw [Station.call, executed, Option.map_some])
    cases status

theorem messageInOrder {link : DualMsgchannel} {m used : ChecksumManager} {sender number : UInt32} {raw : Bytes}
    {stampMs : UInt64} (ready : m.initialized = true) (table : SameTable m used) (short : raw.length ≤ vitalPayloadMax)
    (peer : sender = link.expectedPeerId) (next : number = link.expectedSequence) :
    InOrder link used (messageOf m sender number raw stampMs) := by
  have created := createsMessage ready sender number short stampMs
  refine ⟨?_, next, ?_⟩
  · rintro (other | corrupt)
    · exact other peer
    · exact corrupt (createdIntact created table)
  · exact (Nat.le_of_eq (createdCarries created).2.1).trans short

theorem messageHeld {m : ChecksumManager} (ready : m.initialized = true) (sender number : UInt32) {raw : Bytes}
    (short : raw.length ≤ vitalPayloadMax) (stampMs : UInt64) : held (messageOf m sender number raw stampMs) = raw :=
  (createdCarries (createsMessage ready sender number short stampMs)).2.2

def acknowledgedCycle : CycleIo := openingCycle [quiet, hears 2 0 (ackFrame 1)]

theorem acknowledgedRound {negotiated : Station} (heard : (Station.linked ⟨initialState (smallSite true), 10, closedWire⟩
    1 healthy acknowledgedCycle).1.negotiate acknowledgedCycle.round = some negotiated) :
    negotiated.wire.channel.links 0 = ⟨1, 2, 1, 0, true⟩ ∧ SameTable readyManager negotiated.wire.manager := by
  have state : ((Station.linked ⟨initialState (smallSite true), 10, closedWire⟩ 1 healthy
      acknowledgedCycle).1.negotiate acknowledgedCycle.round).map (fun s => (s.wire.channel.links 0,
        s.wire.manager.initialized, s.wire.manager.table)) = some (⟨1, 2, 1, 0, true⟩, true, some .ertms) := rfl
  rw [heard, Option.map_some, Option.some_inj, Prod.mk.injEq, Prod.mk.injEq] at state
  exact ⟨state.1, state.2.1, state.2.2⟩

open Station in
theorem acknowledgedCycleKept : Along Kept ⟨initialState (smallSite true), 10, closedWire⟩
    [.execute 1 healthy acknowledgedCycle] := by
  have init : siteRoleInit (smallSite true) = .ok (initialState (smallSite true)) := by
    simp [siteRoleInit, smallSite, frameOverhead]
  have ack : held (messageOf readyManager 2 0 (ackFrame 1) 0) = ackFrame 1 := messageHeld rfl 2 0 (by decide) 0
  refine (healthyLinkKept init (by decide) (by decide) ?_).1 (by decide) rfl ?_
  · refine alwaysCons.mpr ⟨?_, alwaysNil _ _ _⟩
    rintro _ ⟨⟩ negotiated opened heard
    obtain ⟨link, table⟩ := acknowledgedRound heard
    refine ⟨fun _ => ⟨quiet, [hears 2 0 (ackFrame 1)], rfl, rfl, fun sent => ⟨0, by decide, ?_⟩⟩, fun _ _ _ => rfl⟩
    have alike := sendAlike negotiated.wire.channel negotiated.wire.manager 0
      (dataFrame (ownFrame negotiated.rs acknowledgedCycle.region)) quiet
    have inbound := alike.links 0
    rw [link] at inbound ⊢
    refine ⟨fun k upTo => ?_, ⟨_, rfl, ?_⟩, by simp, by simp⟩
    · obtain rfl := Nat.le_zero.mp upTo
      exact messageInOrder rfl (table.trans alike.table) (by decide) inbound.expectedPeerId.symm
        inbound.expectedSequence.symm
    · rw [ack]
      exact ackNumberFrame 1
  · refine alwaysCons.mpr ⟨?_, alwaysNil _ _ _⟩
    rintro _ ⟨⟩ answer read
    have either : answer = quiet ∨ answer = hears 2 0 (ackFrame 1) := by
      have members : answer ∈ [quiet, quiet, hears 2 0 (ackFrame 1)] := read
      simpa using members
    rcases either with rfl | rfl
    · simp [Fits, quiet]
    · rintro _ payload ⟨⟩ data
      rw [ack] at data
      have none_ : dataPayload (ackFrame 1) = none := by decide
      rw [none_] at data
      cases data

end PlatformRte.SiteRole
