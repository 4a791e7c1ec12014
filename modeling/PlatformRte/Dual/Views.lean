import PlatformRte.Dual.Listening
import PlatformRte.Lib.Machine
import PlatformRte.Lib.Pair

/-! Two negotiators and what each makes of the other's beacons. A beacon is known by its
place among those its sender has sent, and may be lost, delayed, repeated or overtaken. An
execute begins with a beacon of its own and ends later; the other side may move in between. -/
namespace PlatformRte.Dual.Views
open Bytes Channel Listening Machine

structure Begun where
  before : DualNegotiator
  status : DualChannelStatus
  beacon : Nat

/- An execute that has ended. heard: the place of the beacon that was accepted last. -/
structure Ended where
  before : DualNegotiator
  status : DualChannelStatus
  beacon : Nat
  heard : Option Nat
  after : DualNegotiator
  nowMs : UInt64
  deriving DecidableEq

structure Side where
  negotiator : DualNegotiator
  sent : List Bytes
  running : Option Begun
  heard : Option Nat
  ended : List Ended

def arrivals (sent : List Bytes) (picks : List (Nat × UInt64)) : List (Nat × DualStateFrame × UInt64) :=
  picks.filterMap fun pick => (sent[pick.1]?.bind beaconOf).map fun frame => (pick.1, frame, pick.2)

namespace Side

def fresh (config : DualNegotiatorConfig) (nowMs : UInt64) : Side := ⟨dualNegotiatorInit config nowMs, [], none, none, []⟩

def begin (side : Side) (status : DualChannelStatus) : Side :=
  match side.running with
  | some _ => side
  | none =>
      let announced := negotiatorAnnounce side.negotiator status
      { side with
        negotiator := announced.1
        sent := side.sent ++ [stateFrame announced.2]
        running := some ⟨side.negotiator, status, side.sent.length⟩ }

def finish (side : Side) (others : List Bytes) (picks : List (Nat × UInt64)) (nowMs : UInt64) : Side :=
  match side.running with
  | none => side
  | some begun =>
      let arrived := arrivals others picks
      let after := negotiatorSettle side.negotiator (arrived.map Prod.snd) nowMs
      let heard := (arrived.getLast?.map Prod.fst).or side.heard
      { side with
        negotiator := after
        running := none
        heard := heard
        ended := ⟨begun.before, begun.status, begun.beacon, heard, after, nowMs⟩ :: side.ended }

def create (side : Side) (config : DualNegotiatorConfig) (nowMs : UInt64) : Side :=
  { side with negotiator := dualNegotiatorInit config nowMs, running := none, heard := none }

end Side

inductive Event where
  | begin (p : Party) (status : DualChannelStatus)
  | finish (p : Party) (picks : List (Nat × UInt64)) (nowMs : UInt64)
  | create (p : Party) (config : DualNegotiatorConfig) (nowMs : UInt64)

def step (s : Pair Side) : Event → Pair Side
  | .begin p status => s.set p ((s.get p).begin status)
  | .finish p picks nowMs => s.set p ((s.get p).finish (s.get p.other).sent picks nowMs)
  | .create p config nowMs => s.set p ((s.get p).create config nowMs)

def FlagFrom (others : List Bytes) (heard : Option Nat) (n : DualNegotiator) : Prop :=
  ∀ place, heard = some place →
    ∃ frame, others[place]?.bind beaconOf = some frame ∧ n.peerChannelDegraded = (frame.channelDegraded != 0)

structure Explained (own others : List Bytes) (e : Ended) : Prop where
  ran : ∃ frames, e.after = dualNegotiatorExecute e.before ⟨e.status, frames, e.nowMs⟩
  sent : own[e.beacon]? = some (stateFrame (negotiatorAnnounce e.before e.status).2)
  heard : FlagFrom others e.heard e.after

structure Faithful (own : Side) (others : List Bytes) : Prop where
  running : ∀ begun, own.running = some begun →
    own.negotiator = (negotiatorAnnounce begun.before begun.status).1 ∧
      own.sent[begun.beacon]? = some (stateFrame (negotiatorAnnounce begun.before begun.status).2)
  heard : FlagFrom others own.heard own.negotiator
  ended : ∀ e ∈ own.ended, Explained own.sent others e

theorem grown {raw : Bytes} {sent : List Bytes} {place : Nat} (more : List Bytes) (there : sent[place]? = some raw) :
    (sent ++ more)[place]? = some raw := by
  rw [List.getElem?_append_left (List.getElem?_eq_some_iff.mp there).1, there]

theorem flagGrown {others : List Bytes} {heard : Option Nat} {n : DualNegotiator} (more : List Bytes)
    (flag : FlagFrom others heard n) : FlagFrom (others ++ more) heard n := by
  intro place is
  obtain ⟨frame, found, same⟩ := flag place is
  obtain ⟨raw, there, read⟩ := Option.bind_eq_some_iff.mp found
  exact ⟨frame, Option.bind_eq_some_iff.mpr ⟨raw, grown more there, read⟩, same⟩

theorem faithfulGrown {own : Side} {others : List Bytes} (more : List Bytes) (faithful : Faithful own others) :
    Faithful own (others ++ more) :=
  ⟨faithful.running, flagGrown more faithful.heard, fun e member =>
    ⟨(faithful.ended e member).ran, (faithful.ended e member).sent, flagGrown more (faithful.ended e member).heard⟩⟩

theorem beginFaithful {own : Side} {others : List Bytes} (status : DualChannelStatus) (faithful : Faithful own others) :
    Faithful (own.begin status) others := by
  unfold Side.begin
  cases running : own.running with
  | some begun => simpa only [running] using faithful
  | none =>
    refine ⟨?_, faithful.heard, fun e member => ?_⟩
    · rintro _ ⟨⟩
      exact ⟨rfl, by simp⟩
    · have before := faithful.ended e member
      exact ⟨before.ran, grown _ before.sent, before.heard⟩

theorem processedFlag {others : List Bytes} {heard : Option Nat} {n : DualNegotiator} (picks : List (Nat × UInt64))
    (flag : FlagFrom others heard n) :
    FlagFrom others (((arrivals others picks).getLast?.map Prod.fst).or heard)
      (((arrivals others picks).map Prod.snd).foldl (fun n (entry : DualStateFrame × UInt64) =>
        negotiatorProcessPeerFrame n entry.1 entry.2) n) := by
  rcases List.eq_nil_or_concat (arrivals others picks) with none_ | ⟨init, last, shape⟩
  · rw [none_]
    exact flag
  · have member : last ∈ arrivals others picks := by
      rw [shape]
      simp
    obtain ⟨pick, _, picked⟩ := List.mem_filterMap.mp member
    obtain ⟨frame, found, rfl⟩ := Option.map_eq_some_iff.mp picked
    rw [shape, List.concat_eq_append, List.getLast?_append, List.map_append, List.foldl_append]
    rintro _ ⟨⟩
    exact ⟨frame, found, rfl⟩

theorem finishFaithful {own : Side} {others : List Bytes} (picks : List (Nat × UInt64)) (nowMs : UInt64)
    (faithful : Faithful own others) : Faithful (own.finish others picks nowMs) others := by
  unfold Side.finish
  cases running : own.running with
  | none => simpa only [running] using faithful
  | some begun =>
    obtain ⟨begins, sent⟩ := faithful.running begun running
    have processed := processedFlag picks faithful.heard
    have flag : FlagFrom others (((arrivals others picks).getLast?.map Prod.fst).or own.heard)
        (negotiatorSettle own.negotiator ((arrivals others picks).map Prod.snd) nowMs) := by
      obtain ⟨_, _, same⟩ := updateStatesOnly (((arrivals others picks).map Prod.snd).foldl
        (fun n (entry : DualStateFrame × UInt64) => negotiatorProcessPeerFrame n entry.1 entry.2) own.negotiator) nowMs
      rw [negotiatorSettle, same]
      exact processed
    refine ⟨by simp, flag, fun e member => ?_⟩
    rcases List.mem_cons.mp member with rfl | earlier
    · exact ⟨⟨(arrivals others picks).map Prod.snd, by rw [begins]; rfl⟩, sent, flag⟩
    · exact faithful.ended e earlier

theorem createFaithful {own : Side} {others : List Bytes} (config : DualNegotiatorConfig) (nowMs : UInt64)
    (faithful : Faithful own others) : Faithful (own.create config nowMs) others := by
  refine ⟨fun begun running => ?_, fun place heard => ?_, faithful.ended⟩
  · simp [Side.create] at running
  · simp [Side.create] at heard

def Coherent (s : Pair Side) : Prop := ∀ p, Faithful (s.get p) (s.get p.other).sent

theorem coherentStep (s : Pair Side) (event : Event) (coherent : Coherent s) : Coherent (step s event) := by
  cases event with
  | begin p status =>
    have others : ∃ more, ((s.get p).begin status).sent = (s.get p).sent ++ more := by
      unfold Side.begin
      split
      · exact ⟨[], (List.append_nil _).symm⟩
      · exact ⟨_, rfl⟩
    obtain ⟨more, grows⟩ := others
    have turned := coherent p.other
    rw [Party.otherOther] at turned
    refine Pair.setBoth (R := fun own other => Faithful own other.sent) (beginFaithful status (coherent p)) ?_
    rw [grows]
    exact faithfulGrown more turned
  | finish p picks nowMs =>
    have turned := coherent p.other
    rw [Party.otherOther] at turned
    have same : ((s.get p).finish (s.get p.other).sent picks nowMs).sent = (s.get p).sent := by
      unfold Side.finish
      split <;> rfl
    refine Pair.setBoth (R := fun own other => Faithful own other.sent) (finishFaithful picks nowMs (coherent p)) ?_
    rw [same]
    exact turned
  | create p config nowMs =>
    have turned := coherent p.other
    rw [Party.otherOther] at turned
    exact Pair.setBoth (R := fun own other => Faithful own other.sent) (createFaithful config nowMs (coherent p)) turned

def start (one two : DualNegotiatorConfig × UInt64) : Pair Side := ⟨Side.fresh one.1 one.2, Side.fresh two.1 two.2⟩

theorem freshFaithful (config : DualNegotiatorConfig) (nowMs : UInt64) (others : List Bytes) :
    Faithful (Side.fresh config nowMs) others := by
  refine ⟨fun begun running => ?_, fun place heard => ?_, fun e member => ?_⟩
  · simp [Side.fresh] at running
  · simp [Side.fresh] at heard
  · simp [Side.fresh] at member

theorem coherentRun (one two : DualNegotiatorConfig × UInt64) (events : List Event) :
    Coherent (run step (start one two) events) := by
  have first : Coherent (start one two) := by
    intro p
    cases p with
    | one => exact freshFaithful one.1 one.2 _
    | two => exact freshFaithful two.1 two.2 _
  have always : Always step (fun _ _ => True) (start one two) events := fun _ _ _ _ => True.intro
  exact invariantRun first (fun s event coherent _ => coherentStep s event coherent) always

def Ended.Stale (e : Ended) : Prop :=
  e.after.haveLastPeerSeen = true ∧
    e.after.lastPeerSeenMs.toNat + e.after.peerLostTimeoutMs.toNat ≤ e.nowMs.toNat

instance (e : Ended) : Decidable e.Stale := by unfold Ended.Stale; infer_instance

theorem staleNotRecent {n : DualNegotiator} {nowMs : UInt64}
    (old : n.lastPeerSeenMs.toNat + n.peerLostTimeoutMs.toNat ≤ nowMs.toNat) : peerContactRecent n nowMs = false := by
  refine Bool.eq_false_iff.mpr fun recent => ?_
  simp only [peerContactRecent, Bool.and_eq_true, decide_eq_true_eq] at recent
  obtain ⟨⟨_, passed⟩, short⟩ := recent
  have less := UInt64.lt_iff_toNat_lt.mp short
  rw [UInt64.toNat_sub_of_le _ _ passed, UInt32.toNat_toUInt64] at less
  omega

section Execute
variable {n : DualNegotiator} {io : NegotiatorIo}

theorem executeProcessed (n : DualNegotiator) (io : NegotiatorIo) : ∃ m, m.ownState = n.ownState ∧
    m.ownChannelDegraded = decide (io.channelStatus ≠ .full) ∧
      dualNegotiatorExecute n io = negotiatorUpdateStates m io.nowMs := by
  have kept : ∀ (frames : List (DualStateFrame × UInt64)) (n : DualNegotiator),
      let m := frames.foldl (fun n (entry : DualStateFrame × UInt64) => negotiatorProcessPeerFrame n entry.1 entry.2) n
      m.ownState = n.ownState ∧ m.ownChannelDegraded = n.ownChannelDegraded := by
    intro frames
    induction frames with
    | nil => exact fun n => ⟨rfl, rfl⟩
    | cons entry rest ih => exact fun n => ih (negotiatorProcessPeerFrame n entry.1 entry.2)
  obtain ⟨own, degraded⟩ := kept io.frames (negotiatorAnnounce n io.channelStatus).1
  exact ⟨_, own, degraded, rfl⟩

theorem executeView (recent : peerContactRecent (dualNegotiatorExecute n io) io.nowMs = true) :
    let after := dualNegotiatorExecute n io
    (after.ownState = .online → after.peerState = standbyFor (decide (io.channelStatus ≠ .full))) ∧
      (after.ownState ≠ .online → after.ownState = standbyFor after.peerChannelDegraded ∧ after.peerState = .online) := by
  obtain ⟨m, _, degraded, same⟩ := executeProcessed n io
  obtain ⟨own, peer, only⟩ := updateStatesOnly m io.nowMs
  dsimp only
  rw [same] at recent ⊢
  have flag : (negotiatorUpdateStates m io.nowMs).peerChannelDegraded = m.peerChannelDegraded := by rw [only]
  have before : peerContactRecent m io.nowMs = true := by
    rw [only] at recent
    exact recent
  rw [flag]
  rcases updateRecent before with ⟨online, standby, _⟩ | ⟨_, standby, online⟩
  · exact ⟨fun _ => by rw [standby, degraded], fun not_ => absurd online not_⟩
  · exact ⟨fun online' => absurd (standby.symm.trans online') (standbyNotOnline _), fun _ => ⟨standby, online⟩⟩

theorem executeStaysOnline (online : n.ownState = .online) : (dualNegotiatorExecute n io).ownState = .online := by
  obtain ⟨m, own, _, same⟩ := executeProcessed n io
  rw [same]
  exact updateStaysOnline io.nowMs (own.trans online)

theorem executeStale (seen : (dualNegotiatorExecute n io).haveLastPeerSeen = true)
    (stale : peerContactRecent (dualNegotiatorExecute n io) io.nowMs = false) :
    (dualNegotiatorExecute n io).peerState = .unknown ∧
      (dualNegotiatorExecute n io).ownState = if n.ownState = .online then .online else .unknown := by
  obtain ⟨m, own, _, same⟩ := executeProcessed n io
  obtain ⟨_, _, only⟩ := updateStatesOnly m io.nowMs
  rw [same, only] at seen stale
  rw [same, ← own]
  exact updateStale seen stale

end Execute

/- Whenever the standby side has last heard the beacon of an execute that ended ONLINE, the
two agree on who is ONLINE and whether the standby is hot; ONLINE is never left; and a
peer not heard of in time is UNKNOWN. -/
theorem viewsAgree (one two : DualNegotiatorConfig × UInt64) (events : List Event) (p : Party) :
    let s := run step (start one two) events
    (∀ a ∈ (s.get p).ended, ∀ b ∈ (s.get p.other).ended, a.after.ownState = .online →
      peerContactRecent a.after a.nowMs = true → b.after.ownState ≠ .online →
      peerContactRecent b.after b.nowMs = true → b.heard = some a.beacon →
        b.after.ownState = a.after.peerState ∧ b.after.peerState = .online) ∧
    ∀ e ∈ (s.get p).ended, (e.before.ownState = .online → e.after.ownState = .online) ∧
      (e.Stale → e.after.peerState = .unknown ∧
        e.after.ownState = if e.before.ownState = .online then .online else .unknown) := by
  have coherent := coherentRun one two events
  dsimp only
  generalize run step (start one two) events = s at coherent
  constructor
  · intro a aEnded b bEnded online aRecent standby bRecent heard
    obtain ⟨⟨aFrames, aRan⟩, sent, _⟩ := (coherent p).ended a aEnded
    obtain ⟨⟨bFrames, bRan⟩, _, flag⟩ := (coherent p.other).ended b bEnded
    obtain ⟨frame, found, degraded⟩ := flag a.beacon heard
    rw [Party.otherOther, sent, Option.bind_some, beaconOfStateFrame] at found
    cases found
    rw [aRan] at online aRecent ⊢
    rw [bRan] at standby bRecent degraded ⊢
    obtain ⟨own, peer⟩ := (executeView bRecent).2 standby
    refine ⟨?_, peer⟩
    rw [own, (executeView aRecent).1 online, degraded]
    by_cases full : a.status = .full <;> simp [negotiatorAnnounce, full]
  · intro e ended
    obtain ⟨⟨frames, ran⟩, _, _⟩ := (coherent p).ended e ended
    refine ⟨fun online => ?_, fun stale => ?_⟩
    · rw [ran]
      exact executeStaysOnline online
    · obtain ⟨seen, old⟩ := stale
      have late := staleNotRecent old
      rw [ran] at seen late ⊢
      exact executeStale seen late

def degradedStart : List Event :=
  [.begin .one .degraded, .begin .two .full, .finish .two [(0, 10)] 11, .finish .one [(0, 12)] 13,
    .begin .one .degraded, .finish .one [] 200]

def degradedEnds : Pair Side := run step (start (⟨0, 1, 50, .idle, 1000⟩, 0) (⟨1, 0, 50, .idle, 1005⟩, 0)) degradedStart

def won : DualNegotiator := ⟨0, 1, 50, 1000, true, true, 1005, false, .online, .coldStandby, true, 12⟩

def standsBy : DualNegotiator := ⟨1, 0, 50, 1005, false, true, 1000, true, .coldStandby, .online, true, 10⟩

def wonEnded : Ended := ⟨dualNegotiatorInit ⟨0, 1, 50, .idle, 1000⟩ 0, .degraded, 0, some 0, won, 13⟩

def aloneEnded : Ended := ⟨won, .degraded, 1, some 0, { won with peerState := .unknown }, 200⟩

def standsByEnded : Ended := ⟨dualNegotiatorInit ⟨1, 0, 50, .idle, 1005⟩ 0, .full, 0, some 0, standsBy, 11⟩

theorem degradedEnded : (degradedEnds.get .one).ended = [aloneEnded, wonEnded] ∧
    (degradedEnds.get .two).ended = [standsByEnded] := by
  decide

theorem degradedViewsAgree : wonEnded ∈ (degradedEnds.get .one).ended ∧ standsByEnded ∈ (degradedEnds.get .two).ended ∧
    standsByEnded.after.ownState = wonEnded.after.peerState ∧ standsByEnded.after.peerState = .online ∧
    aloneEnded.after.ownState = .online ∧ aloneEnded.after.peerState = .unknown := by
  obtain ⟨one, two⟩ := degradedEnded
  have won_ : wonEnded ∈ (degradedEnds.get .one).ended := by rw [one]; simp
  have alone : aloneEnded ∈ (degradedEnds.get .one).ended := by rw [one]; simp
  have standsBy_ : standsByEnded ∈ (degradedEnds.get .two).ended := by rw [two]; simp
  obtain ⟨views, kept⟩ := viewsAgree (⟨0, 1, 50, .idle, 1000⟩, 0) (⟨1, 0, 50, .idle, 1005⟩, 0) degradedStart .one
  obtain ⟨agree, online⟩ := views wonEnded won_ standsByEnded standsBy_ (by decide) (by decide) (by decide) (by decide)
    (by decide)
  obtain ⟨stays, stale⟩ := kept aloneEnded alone
  exact ⟨won_, standsBy_, agree, online, stays (by decide), (stale (by decide)).1⟩

end PlatformRte.Dual.Views
