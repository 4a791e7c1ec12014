import PlatformRte.Dual.Negotiator
import PlatformRte.Lib.Machine
import PlatformRte.Lib.Pair

/-! Two negotiators that may be re-created at any time, and every beacon either
of them ever sent. A beacon is never consumed: it can be lost, delayed,
duplicated or redelivered to a later incarnation. rte_dual_negotiator_execute()
is an announce followed by a settle, and the other side may act in between. -/
namespace PlatformRte.Dual.Exclusion
open Machine

structure Contender where
  negotiator : DualNegotiator
  used : List UInt64
  beacons : List DualStateFrame
  deriving DecidableEq, Repr

namespace Contender

def timestamp (c : Contender) : UInt64 := c.negotiator.ownStartupTimestampMs

def announce (c : Contender) (status : DualChannelStatus) : Contender :=
  let sent := negotiatorAnnounce c.negotiator status
  { c with negotiator := sent.1, beacons := sent.2 :: c.beacons }

def settle (c : Contender) (frames : List (DualStateFrame × UInt64)) (nowMs : UInt64) : Contender :=
  { c with negotiator := negotiatorSettle c.negotiator frames nowMs }

def recreate (c : Contender) (lostMs : UInt32) (resume : DualState) (timestampMs nowMs : UInt64) : Contender :=
  let n := dualNegotiatorInit ⟨c.negotiator.ownId, c.negotiator.peerId, lostMs, resume, timestampMs⟩ nowMs
  { c with negotiator := n, used := n.ownStartupTimestampMs :: c.used }

end Contender

inductive Event where
  | announce (p : Party) (status : DualChannelStatus)
  | settle (p : Party) (frames : List (DualStateFrame × UInt64)) (nowMs : UInt64)
  | restart (p : Party) (lostMs : UInt32) (timestampMs nowMs : UInt64)
  | reconnect (p : Party) (lostMs : UInt32) (resume : DualState) (nowMs : UInt64)
  deriving DecidableEq, Repr

def step (s : Pair Contender) : Event → Pair Contender
  | .announce p status => s.set p ((s.get p).announce status)
  | .settle p frames nowMs => s.set p ((s.get p).settle frames nowMs)
  | .restart p lostMs timestampMs nowMs => s.set p ((s.get p).recreate lostMs .idle timestampMs nowMs)
  | .reconnect p lostMs resume nowMs =>
      s.set p ((s.get p).recreate lostMs resume (s.get p).timestamp nowMs)

def Admitted (s : Pair Contender) : Event → Prop
  | .announce _ _ => True
  | .settle p frames _ => ∀ entry ∈ frames, entry.1 ∈ (s.get p.other).beacons
  | .restart p lostMs timestampMs nowMs =>
      ∀ t ∈ (s.get p).used, t < ((s.get p).recreate lostMs .idle timestampMs nowMs).timestamp
  | .reconnect p _ resume _ =>
      resume = .idle ∨ resume = .hotStandby ∨
        resume = .online ∧ (s.get p).negotiator.ownState = .online

instance : ∀ s e, Decidable (Admitted s e)
  | _, .announce _ _ => inferInstanceAs (Decidable True)
  | s, .settle p frames _ => inferInstanceAs (Decidable (∀ entry ∈ frames, entry.1 ∈ (s.get p.other).beacons))
  | s, .restart p lostMs timestampMs nowMs =>
      List.decidableBAll (fun t => t < ((s.get p).recreate lostMs .idle timestampMs nowMs).timestamp) (s.get p).used
  | s, .reconnect p _ resume _ => inferInstanceAs (Decidable (resume = .idle ∨ resume = .hotStandby ∨
      resume = .online ∧ (s.get p).negotiator.ownState = .online))

def first (config : DualNegotiatorConfig) (nowMs : UInt64) : Contender :=
  let n := dualNegotiatorInit { config with resumeOwnState := .idle } nowMs
  ⟨n, [n.ownStartupTimestampMs], []⟩

structure Fresh (s : Pair Contender) : Prop where
  created : ∀ p, ∃ config nowMs, s.get p = first config nowMs
  distinct : s.one.negotiator.ownId ≠ s.two.negotiator.ownId
  crossed : ∀ p, (s.get p).negotiator.peerId = (s.get p.other).negotiator.ownId
  nonzero : ∀ p, (s.get p).timestamp ≠ 0

def Older (ts : UInt64) (id : UInt32) (ts' : UInt64) (id' : UInt32) : Prop := ts < ts' ∨ ts = ts' ∧ id < id'

theorem decideOlder {ownId peerId ownTs peerTs}
    (won : negotiatorDecideOnline ownId ownTs peerId peerTs = true) : Older ownTs ownId peerTs peerId := by
  unfold negotiatorDecideOnline at won
  split at won
  · exact Or.inl (of_decide_eq_true won)
  · rename_i same
    exact Or.inr ⟨not_not.mp same, of_decide_eq_true won⟩

theorem olderLater {ts ts' ts'' : UInt64} {id id' : UInt32} (older : Older ts id ts' id') (later : ts' ≤ ts'') :
    Older ts id ts'' id' := by
  rcases older with less | ⟨same, less⟩
  · exact Or.inl (UInt64.lt_of_lt_of_le less later)
  · subst same
    rcases UInt64.le_iff_lt_or_eq.mp later with before | equal
    · exact Or.inl before
    · exact Or.inr ⟨equal, less⟩

theorem olderAsymm {ts ts' : UInt64} {id id' : UInt32} (forth : Older ts id ts' id') :
    ¬ Older ts' id' ts id := by
  rintro (back | ⟨equal, back⟩) <;> rcases forth with less | ⟨same, less⟩
  · exact UInt64.lt_asymm less back
  · subst same; exact UInt64.lt_irrefl _ back
  · subst equal; exact UInt64.lt_irrefl _ less
  · exact UInt32.lt_asymm less back

structure Kept (c : Contender) : Prop where
  nonzero : c.timestamp ≠ 0
  current : c.timestamp ∈ c.used
  used : ∀ t ∈ c.used, t ≤ c.timestamp
  beacons : ∀ f ∈ c.beacons, f.timestampMs ≤ c.timestamp

structure Backed (own other : Contender) : Prop where
  crossed : own.negotiator.peerId = other.negotiator.ownId
  heard : own.negotiator.haveLastPeerSeen = true → own.negotiator.peerStartupTimestampMs ≤ other.timestamp
  online : own.negotiator.ownState = .online →
    Older own.timestamp own.negotiator.ownId other.timestamp other.negotiator.ownId

structure Inv (s : Pair Contender) : Prop where
  kept : ∀ p, Kept (s.get p)
  backed : ∀ p, Backed (s.get p) (s.get p.other)

theorem invMove {s : Pair Contender} {p : Party} {c : Contender} (inv : Inv s)
    (ownId : c.negotiator.ownId = (s.get p).negotiator.ownId)
    (later : (s.get p).timestamp ≤ c.timestamp) (kept : Kept c) (backed : Backed c (s.get p.other)) :
    Inv (s.set p c) := by
  have turned : Backed (s.get p.other) c := by
    have before := inv.backed p.other
    rw [Party.otherOther] at before
    refine ⟨before.crossed.trans ownId.symm, fun seen => ?_, fun online => ?_⟩
    · exact UInt64.le_trans (before.heard seen) later
    · rw [ownId]
      exact olderLater (before.online online) later
  exact ⟨Pair.setKeeps kept inv.kept, Pair.setBoth backed turned⟩

theorem keptSame {c d : Contender} (kept : Kept c) (timestamp : d.timestamp = c.timestamp)
    (used : d.used = c.used) (beacons : ∀ f ∈ d.beacons, f ∈ c.beacons ∨ f.timestampMs = c.timestamp) :
    Kept d := by
  refine ⟨timestamp ▸ kept.nonzero, ?_, ?_, ?_⟩
  · rw [timestamp, used]; exact kept.current
  · rw [timestamp, used]; exact kept.used
  · intro f member
    rw [timestamp]
    rcases beacons f member with old | new
    · exact kept.beacons f old
    · exact UInt64.le_of_eq new

theorem invAnnounce {s : Pair Contender} (inv : Inv s) (p : Party) (status : DualChannelStatus) :
    Inv (s.set p ((s.get p).announce status)) := by
  have before := inv.backed p
  refine invMove inv rfl (UInt64.le_refl _) ?_ ⟨before.crossed, before.heard, before.online⟩
  refine keptSame (inv.kept p) rfl rfl ?_
  intro f member
  rcases List.mem_cons.mp member with rfl | old
  · exact Or.inr rfl
  · exact Or.inl old

theorem processedFrames {n : DualNegotiator} {bound : UInt64} {frames : List (DualStateFrame × UInt64)}
    (heard : n.haveLastPeerSeen = true → n.peerStartupTimestampMs ≤ bound)
    (sent : ∀ entry ∈ frames, entry.1.timestampMs ≤ bound) :
    let m := frames.foldl (fun n (entry : DualStateFrame × UInt64) =>
      negotiatorProcessPeerFrame n entry.1 entry.2) n
    SameOwn n m ∧ m.ownState = n.ownState ∧ (m.haveLastPeerSeen = true → m.peerStartupTimestampMs ≤ bound) := by
  induction frames generalizing n with
  | nil => exact ⟨sameOwnRefl n, rfl, heard⟩
  | cons entry rest ih =>
    have head : entry.1.timestampMs ≤ bound := sent entry List.mem_cons_self
    have tail := ih (n := negotiatorProcessPeerFrame n entry.1 entry.2) (fun _ => head)
      (fun e member => sent e (List.mem_cons_of_mem _ member))
    have same : SameOwn n (negotiatorProcessPeerFrame n entry.1 entry.2) := ⟨rfl, rfl, rfl⟩
    exact ⟨sameOwnTrans same tail.1, tail.2.1, tail.2.2⟩

theorem updateHeard (n : DualNegotiator) (nowMs : UInt64) :
    (negotiatorUpdateStates n nowMs).haveLastPeerSeen = n.haveLastPeerSeen ∧
    (negotiatorUpdateStates n nowMs).peerStartupTimestampMs = n.peerStartupTimestampMs := by
  obtain ⟨own, peer, same⟩ := updateStatesOnly n nowMs
  rw [same]
  exact ⟨rfl, rfl⟩

theorem invSettle {s : Pair Contender} (inv : Inv s) (p : Party) {frames : List (DualStateFrame × UInt64)}
    (nowMs : UInt64) (sent : ∀ entry ∈ frames, entry.1 ∈ (s.get p.other).beacons) :
    Inv (s.set p ((s.get p).settle frames nowMs)) := by
  have before := inv.backed p
  have bounded : ∀ entry ∈ frames, entry.1.timestampMs ≤ (s.get p.other).timestamp :=
    fun entry member => (inv.kept p.other).beacons _ (sent entry member)
  obtain ⟨same, state, heard⟩ := processedFrames before.heard bounded
  have own := sameOwnTrans same (updateSameOwn _ nowMs)
  obtain ⟨seen, peerTs⟩ := updateHeard (frames.foldl (fun n (entry : DualStateFrame × UInt64) =>
    negotiatorProcessPeerFrame n entry.1 entry.2) (s.get p).negotiator) nowMs
  have timestamp : ((s.get p).settle frames nowMs).timestamp = (s.get p).timestamp := own.ownStartupTimestampMs
  refine invMove inv own.ownId (UInt64.le_of_eq timestamp.symm) ?_ ⟨?_, ?_, ?_⟩
  · exact keptSame (inv.kept p) timestamp rfl (fun f member => Or.inl member)
  · exact own.peerId.trans before.crossed
  · intro have_seen
    change (negotiatorUpdateStates _ nowMs).peerStartupTimestampMs ≤ _
    rw [peerTs]
    exact heard (seen ▸ have_seen)
  · intro online
    rw [timestamp]
    change Older _ (negotiatorSettle (s.get p).negotiator frames nowMs).ownId _ _
    rw [show (negotiatorSettle (s.get p).negotiator frames nowMs).ownId = (s.get p).negotiator.ownId from own.ownId]
    rcases updateOnline online with was | ⟨contact, won⟩
    · exact before.online (state ▸ was)
    · -- the tie-break was won against a timestamp the other side still has or has outgrown
      have older := decideOlder won
      rw [same.ownId, same.ownStartupTimestampMs, same.peerId, before.crossed] at older
      exact olderLater older (heard contact)

theorem recreateTimestamp (c : Contender) (lostMs : UInt32) (resume : DualState) {timestampMs : UInt64}
    (nowMs : UInt64) (nonzero : timestampMs ≠ 0) :
    (c.recreate lostMs resume timestampMs nowMs).timestamp = timestampMs := by
  simp [Contender.recreate, Contender.timestamp, dualNegotiatorInit, nonzero]

theorem keptRecreate {c : Contender} (kept : Kept c) {lostMs resume timestampMs nowMs}
    (later : c.timestamp ≤ (c.recreate lostMs resume timestampMs nowMs).timestamp) :
    Kept (c.recreate lostMs resume timestampMs nowMs) := by
  refine ⟨?_, List.mem_cons_self, ?_, fun f member => UInt64.le_trans (kept.beacons f member) later⟩
  · intro zero
    rw [zero] at later
    exact kept.nonzero (UInt64.le_antisymm later (UInt64.zero_le))
  · intro t member
    rcases List.mem_cons.mp member with rfl | old
    · exact UInt64.le_refl _
    · exact UInt64.le_trans (kept.used t old) later

theorem invRestart {s : Pair Contender} (inv : Inv s) (p : Party) {lostMs timestampMs nowMs}
    (younger : ∀ t ∈ (s.get p).used, t < ((s.get p).recreate lostMs .idle timestampMs nowMs).timestamp) :
    Inv (s.set p ((s.get p).recreate lostMs .idle timestampMs nowMs)) := by
  have later := UInt64.le_of_lt (younger _ (inv.kept p).current)
  refine invMove inv rfl later (keptRecreate (inv.kept p) later) ⟨(inv.backed p).crossed, ?_, ?_⟩
  · intro seen
    simp [Contender.recreate, dualNegotiatorInit] at seen
  · intro online
    simp [Contender.recreate, dualNegotiatorInit] at online

theorem invReconnect {s : Pair Contender} (inv : Inv s) (p : Party) (lostMs : UInt32) {resume : DualState}
    (nowMs : UInt64) (resumed : resume = .online → (s.get p).negotiator.ownState = .online) :
    Inv (s.set p ((s.get p).recreate lostMs resume (s.get p).timestamp nowMs)) := by
  have same := recreateTimestamp (s.get p) lostMs resume nowMs (inv.kept p).nonzero
  have later := UInt64.le_of_eq same.symm
  refine invMove inv rfl later (keptRecreate (inv.kept p) later) ⟨(inv.backed p).crossed, ?_, ?_⟩
  · intro seen
    simp [Contender.recreate, dualNegotiatorInit] at seen
  · intro online
    rw [same]
    exact (inv.backed p).online (resumed online)

theorem invStep (s : Pair Contender) (e : Event) (inv : Inv s) (admitted : Admitted s e) : Inv (step s e) := by
  cases e with
  | announce p status => exact invAnnounce inv p status
  | settle p frames nowMs => exact invSettle inv p nowMs admitted
  | restart p lostMs timestampMs nowMs => exact invRestart inv p admitted
  | reconnect p lostMs resume nowMs =>
    refine invReconnect inv p lostMs nowMs ?_
    rintro rfl
    rcases admitted with no | no | ⟨_, was⟩
    · cases no
    · cases no
    · exact was

theorem invFresh {s : Pair Contender} (fresh : Fresh s) : Inv s := by
  constructor
  · intro p
    have nonzero := fresh.nonzero p
    obtain ⟨config, nowMs, same⟩ := fresh.created p
    rw [same] at nonzero ⊢
    exact ⟨nonzero, List.mem_cons_self, by simp [first, Contender.timestamp], by simp [first]⟩
  · intro p
    refine ⟨fresh.crossed p, ?_, ?_⟩ <;> obtain ⟨config, nowMs, same⟩ := fresh.created p <;> rw [same]
    · intro seen
      simp [first, dualNegotiatorInit] at seen
    · intro online
      simp [first, dualNegotiatorInit] at online

theorem neverBothOnline {start : Pair Contender} {events : List Event} (fresh : Fresh start)
    (admitted : Always step Admitted start events) :
    ¬ ((run step start events).one.negotiator.ownState = .online ∧
      (run step start events).two.negotiator.ownState = .online) := by
  have inv := invariantRun (invFresh fresh) invStep admitted
  rintro ⟨one, two⟩
  exact olderAsymm ((inv.backed .one).online one) ((inv.backed .two).online two)

def twoStarts : Pair Contender := ⟨first ⟨0, 1, 50, .idle, 1000⟩ 0, first ⟨1, 0, 50, .idle, 1005⟩ 0⟩

def oneRestart : List Event :=
  [.announce .one .full, .announce .two .full, .settle .two [(⟨0, 0, 1000⟩, 10)] 11,
    .settle .one [(⟨0, 0, 1005⟩, 12)] 13, .restart .one 50 2000 14, .announce .one .full,
    .settle .two [] 400, .settle .two [(⟨0, 0, 2000⟩, 410)] 411, .settle .one [(⟨0, 0, 1005⟩, 420)] 421]

theorem neverBothOnlineAfterRestart :
    (run step twoStarts oneRestart).two.negotiator.ownState = .online ∧
    ¬ ((run step twoStarts oneRestart).one.negotiator.ownState = .online ∧
      (run step twoStarts oneRestart).two.negotiator.ownState = .online) := by
  refine ⟨by decide, neverBothOnline ⟨?_, by decide, ?_, ?_⟩ (by decide)⟩
  · rintro (_ | _)
    · exact ⟨⟨0, 1, 50, .idle, 1000⟩, 0, rfl⟩
    · exact ⟨⟨1, 0, 50, .idle, 1005⟩, 0, rfl⟩
  · rintro (_ | _) <;> decide
  · rintro (_ | _) <;> decide

end PlatformRte.Dual.Exclusion
