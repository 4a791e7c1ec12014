import PlatformRte.Dual.Exclusion

/-! Two negotiators that hear each other. The elder goes ONLINE and the other one stands by,
unless the elder stood by already: then neither of them is ever ONLINE. -/
namespace PlatformRte.Dual.Exclusion
open Machine

def Standby (state : DualState) : Prop := state = .hotStandby ∨ state = .coldStandby

instance (state : DualState) : Decidable (Standby state) :=
  inferInstanceAs (Decidable (state = .hotStandby ∨ state = .coldStandby))

theorem standbyForStandby (degraded : Bool) : Standby (standbyFor degraded) := by
  cases degraded
  · exact Or.inl rfl
  · exact Or.inr rfl

def wins (s : Pair Contender) (p : Party) : Bool :=
  negotiatorDecideOnline (s.get p).negotiator.ownId (s.get p).timestamp (s.get p.other).negotiator.ownId
    (s.get p.other).timestamp

def processed (n : DualNegotiator) (frames : List (DualStateFrame × UInt64)) : DualNegotiator :=
  frames.foldl (fun n (entry : DualStateFrame × UInt64) => negotiatorProcessPeerFrame n entry.1 entry.2) n

/- Nothing is re-created, and who recomputes its state has heard the other side's present
incarnation within its timeout. -/
inductive Hearing (s : Pair Contender) : Event → Prop
  | announce {p : Party} {status : DualChannelStatus} : Hearing s (.announce p status)
  | settle {p : Party} {frames : List (DualStateFrame × UInt64)} {nowMs : UInt64}
      (recent : peerContactRecent (processed (s.get p).negotiator frames) nowMs = true)
      (present : (processed (s.get p).negotiator frames).peerStartupTimestampMs = (s.get p.other).timestamp) :
      Hearing s (.settle p frames nowMs)

def settles (p : Party) : Event → Bool
  | .settle q _ _ => decide (q = p)
  | _ => false

def Decided (won : Bool) (before after : DualState) : Prop :=
  if Standby before then Standby after
  else if won ∨ before = .online then after = .online
  else Standby after

theorem decidedAgain {won : Bool} {before between after : DualState} (first : Decided won before between)
    (second : Decided won between after) : Decided won before after := by
  unfold Decided at *
  by_cases standby : Standby before
  · rw [if_pos standby] at first ⊢
    rwa [if_pos first] at second
  · rw [if_neg standby] at first ⊢
    by_cases online : won = true ∨ before = .online
    · rw [if_pos online] at first ⊢
      subst first
      rwa [if_neg (by decide), if_pos (Or.inr rfl)] at second
    · rw [if_neg online] at first ⊢
      rwa [if_pos first] at second

theorem updateDecided {n : DualNegotiator} {nowMs : UInt64} (recent : peerContactRecent n nowMs = true) :
    Decided (negotiatorDecideOnline n.ownId n.ownStartupTimestampMs n.peerId n.peerStartupTimestampMs) n.ownState
      (negotiatorUpdateStates n nowMs).ownState := by
  have seen : n.haveLastPeerSeen = true := by
    simp only [peerContactRecent, Bool.and_eq_true] at recent
    exact recent.1.1
  simp only [negotiatorUpdateStates, seen, recent, Bool.not_true, Bool.false_eq_true, if_false]
  have standby := standbyForStandby n.peerChannelDegraded
  generalize negotiatorDecideOnline n.ownId n.ownStartupTimestampMs n.peerId n.peerStartupTimestampMs = won
  cases state : n.ownState with
  | idle =>
    rw [Decided, if_neg (by decide)]
    cases won with
    | true => simp
    | false => simpa using standby
  | unknown =>
    rw [Decided, if_neg (by decide)]
    cases won with
    | true => simp
    | false => simpa using standby
  | online =>
    rw [Decided, if_neg (by decide)]
    simp
  | hotStandby =>
    rw [Decided, if_pos (by decide)]
    simpa using standby
  | coldStandby =>
    rw [Decided, if_pos (by decide)]
    simpa using standby

structure Heard (s t : Pair Contender) : Prop where
  ownId : ∀ p, (t.get p).negotiator.ownId = (s.get p).negotiator.ownId
  peerId : ∀ p, (t.get p).negotiator.peerId = (s.get p).negotiator.peerId
  timestamp : ∀ p, (t.get p).timestamp = (s.get p).timestamp

theorem heardWins {s t : Pair Contender} (heard : Heard s t) (p : Party) : wins t p = wins s p := by
  simp only [wins, heard.ownId, heard.timestamp]

theorem heardMove {s : Pair Contender} {p : Party} {c : Contender} (same : SameOwn (s.get p).negotiator c.negotiator) :
    Heard s (s.set p c) := by
  refine ⟨fun q => ?_, fun q => ?_, fun q => ?_⟩ <;> rcases Party.eqOrOther p q with rfl | rfl
  · rw [Pair.getSet, same.ownId]
  · rw [Pair.getSetOther]
  · rw [Pair.getSet, same.peerId]
  · rw [Pair.getSetOther]
  · rw [Pair.getSet, Contender.timestamp, same.ownStartupTimestampMs]
    rfl
  · rw [Pair.getSetOther]

theorem processedSame (n : DualNegotiator) (frames : List (DualStateFrame × UInt64)) :
    SameOwn n (processed n frames) ∧ (processed n frames).ownState = n.ownState := by
  induction frames generalizing n with
  | nil => exact ⟨sameOwnRefl n, rfl⟩
  | cons entry rest ih =>
    obtain ⟨same, state⟩ := ih (negotiatorProcessPeerFrame n entry.1 entry.2)
    have head : SameOwn n (negotiatorProcessPeerFrame n entry.1 entry.2) := ⟨rfl, rfl, rfl⟩
    exact ⟨sameOwnTrans head same, state⟩

theorem settledSame (n : DualNegotiator) (frames : List (DualStateFrame × UInt64)) (nowMs : UInt64) :
    SameOwn n (negotiatorSettle n frames nowMs) :=
  sameOwnTrans (processedSame n frames).1 (updateSameOwn _ nowMs)

theorem hearingHeard {s : Pair Contender} {e : Event} (hearing : Hearing s e) : Heard s (step s e) := by
  cases hearing with
  | announce => exact heardMove ⟨rfl, rfl, rfl⟩
  | settle recent present => exact heardMove (settledSame _ _ _)

theorem hearingState {s : Pair Contender} {e : Event} (crossed : ∀ p, (s.get p).negotiator.peerId =
      (s.get p.other).negotiator.ownId) (hearing : Hearing s e) (p : Party) :
    if settles p e then
      Decided (wins s p) (s.get p).negotiator.ownState ((step s e).get p).negotiator.ownState
    else ((step s e).get p).negotiator.ownState = (s.get p).negotiator.ownState := by
  cases hearing with
  | @announce q status =>
    rcases Party.eqOrOther q p with rfl | rfl
    · rw [step, Pair.getSet]
      rfl
    · rw [step, Pair.getSetOther]
      rfl
  | @settle q frames nowMs recent present =>
    rcases Party.eqOrOther q p with rfl | rfl
    · obtain ⟨same, state⟩ := processedSame (s.get p).negotiator frames
      have decided := updateDecided recent
      rw [state, same.ownId, same.ownStartupTimestampMs, same.peerId, present, crossed] at decided
      rw [settles, if_pos (by simp), step, Pair.getSet]
      exact decided
    · rw [settles, if_neg (by simp), step, Pair.getSetOther]

structure Followed (s t : Pair Contender) (events : List Event) : Prop where
  heard : Heard s t
  state : ∀ p, if events.any (settles p) then
      Decided (wins s p) (s.get p).negotiator.ownState (t.get p).negotiator.ownState
    else (t.get p).negotiator.ownState = (s.get p).negotiator.ownState

theorem followedRun {s : Pair Contender} {events : List Event}
    (crossed : ∀ p, (s.get p).negotiator.peerId = (s.get p.other).negotiator.ownId)
    (hearing : Always step Hearing s events) : Followed s (run step s events) events := by
  induction events using List.reverseRecOn with
  | nil => exact ⟨⟨fun _ => rfl, fun _ => rfl, fun _ => rfl⟩, fun _ => rfl⟩
  | append_singleton init e ih =>
    obtain ⟨before, last⟩ := alwaysSnoc.mp hearing
    obtain ⟨heard, state⟩ := ih before
    have crossed' : ∀ p, ((run step s init).get p).negotiator.peerId =
        ((run step s init).get p.other).negotiator.ownId := fun p => by
      rw [heard.peerId, heard.ownId, crossed]
    have next := hearingHeard last
    rw [runSnoc]
    refine ⟨⟨fun p => ?_, fun p => ?_, fun p => ?_⟩, fun p => ?_⟩
    · rw [next.ownId, heard.ownId]
    · rw [next.peerId, heard.peerId]
    · rw [next.timestamp, heard.timestamp]
    · have now := hearingState crossed' last p
      have earlier := state p
      rw [heardWins heard] at now
      rw [List.any_append, List.any_cons, List.any_nil, Bool.or_false]
      cases settled : init.any (settles p) <;> cases settling : settles p e <;>
        simp only [settled, settling, Bool.false_eq_true, if_false, if_true, Bool.or_false, Bool.or_true] at now earlier ⊢
      · exact now.trans earlier
      · rwa [earlier] at now
      · rwa [now]
      · exact decidedAgain earlier now

theorem ownIdKept (s : Pair Contender) (e : Event) (p : Party) :
    ((step s e).get p).negotiator.ownId = (s.get p).negotiator.ownId := by
  have moved {q : Party} {c : Contender} (same : c.negotiator.ownId = (s.get q).negotiator.ownId) :
      ((s.set q c).get p).negotiator.ownId = (s.get p).negotiator.ownId := by
    rcases Party.eqOrOther q p with rfl | rfl
    · rw [Pair.getSet, same]
    · rw [Pair.getSetOther]
  cases e with
  | announce q status => exact moved rfl
  | settle q frames nowMs => exact moved (settledSame _ _ _).ownId
  | restart q lostMs timestampMs nowMs => exact moved rfl
  | reconnect q lostMs resume nowMs => exact moved rfl

theorem winsOne {s : Pair Contender} (distinct : s.one.negotiator.ownId ≠ s.two.negotiator.ownId) (p : Party) :
    wins s p.other = !wins s p := by
  have asymmetric {ts ts' : UInt64} {id id' : UInt32} (apart : id ≠ id') :
      negotiatorDecideOnline id' ts' id ts = !negotiatorDecideOnline id ts id' ts' := by
    unfold negotiatorDecideOnline
    by_cases same : ts = ts'
    · subst same
      rw [if_neg (not_not.mpr rfl), if_neg (not_not.mpr rfl)]
      rcases UInt32.lt_or_lt_of_ne apart with less | more
      · simp [less, UInt32.lt_asymm less]
      · simp [more, UInt32.lt_asymm more]
    · rw [if_pos same, if_pos (Ne.symm same)]
      rcases UInt64.lt_or_lt_of_ne same with less | more
      · simp [less, UInt64.lt_asymm less]
      · simp [more, UInt64.lt_asymm more]
  cases p with
  | one => exact asymmetric distinct
  | two => exact asymmetric (Ne.symm distinct)

def elder (s : Pair Contender) : Party := if wins s .one then .one else .two

theorem elderWins {s : Pair Contender} (distinct : s.one.negotiator.ownId ≠ s.two.negotiator.ownId) :
    wins s (elder s) = true ∧ wins s (elder s).other = false := by
  have other := winsOne distinct (elder s)
  have won : wins s (elder s) = true := by
    unfold elder
    cases one : wins s .one with
    | true => exact one
    | false =>
      have two := winsOne distinct .one
      rw [one] at two
      exact two
  rw [won] at other
  exact ⟨won, other⟩

/- Once both have settled while they hear each other, the elder is ONLINE and the other one
stands by; but where the elder stood by before, neither of them is ONLINE however long they
go on so. -/
theorem elderDecides {start : Pair Contender} {events tail : List Event} (fresh : Fresh start)
    (admitted : Always step Admitted start events) (hearing : Always step Hearing (run step start events) tail)
    (both : ∀ p, tail.any (settles p) = true) :
    let t := run step start events
    let s := run step t tail
    (¬Standby (t.get (elder t)).negotiator.ownState →
      (s.get (elder t)).negotiator.ownState = .online ∧ Standby (s.get (elder t).other).negotiator.ownState) ∧
    (Standby (t.get (elder t)).negotiator.ownState → ∀ p, Standby (s.get p).negotiator.ownState) := by
  intro t s
  have inv : Inv t := invariantRun (invFresh fresh) invStep admitted
  have ownId : ∀ p, (t.get p).negotiator.ownId = (start.get p).negotiator.ownId := by
    let Inv (m : Pair Contender) : Prop := ∀ p, (m.get p).negotiator.ownId = (start.get p).negotiator.ownId
    have keep : ∀ m e, Inv m → Admitted m e → Inv (step m e) := fun m e same _ p => (ownIdKept m e p).trans (same p)
    have begun : Inv start := fun _ => rfl
    exact invariantRun begun keep admitted
  have distinct : t.one.negotiator.ownId ≠ t.two.negotiator.ownId := by
    have one := ownId .one
    have two := ownId .two
    simp only [Pair.get] at one two
    rw [one, two]
    exact fresh.distinct
  obtain ⟨won, lost⟩ := elderWins distinct
  have state := (followedRun (fun p => (inv.backed p).crossed) hearing).state
  have younger : Standby (s.get (elder t).other).negotiator.ownState := by
    have decided := state (elder t).other
    rw [if_pos (both _), lost] at decided
    have offline : (t.get (elder t).other).negotiator.ownState ≠ .online := fun online => by
      have older := (inv.backed (elder t).other).online online
      rw [Party.otherOther] at older
      exact olderAsymm older (decideOlder won)
    unfold Decided at decided
    by_cases standby : Standby (t.get (elder t).other).negotiator.ownState
    · rwa [if_pos standby] at decided
    · rwa [if_neg standby, if_neg (by simpa using offline)] at decided
  have decided := state (elder t)
  rw [if_pos (both _), won] at decided
  refine ⟨fun active => ?_, fun standby p => ?_⟩
  · rw [Decided, if_neg active, if_pos (Or.inl rfl)] at decided
    exact ⟨decided, younger⟩
  · rcases Party.eqOrOther (elder t) p with rfl | rfl
    · rwa [Decided, if_pos standby] at decided
    · exact younger

def restartedWest : List Event :=
  [.announce .one .full, .announce .two .full, .settle .two [(⟨0, 0, 1000⟩, 10)] 11,
    .settle .one [(⟨0, 0, 1005⟩, 12)] 13, .restart .one 50 2000 14]

theorem restartedStandBy :
    let t := run step twoStarts restartedWest
    let s := run step t [.settle .two [(⟨0, 0, 2000⟩, 20)] 21, .settle .one [(⟨3, 0, 1005⟩, 22)] 23]
    elder t = .two ∧ Standby (t.get .two).negotiator.ownState ∧ ∀ p, Standby (s.get p).negotiator.ownState := by
  have fresh : Fresh twoStarts := by
    refine ⟨?_, by decide, ?_, ?_⟩
    · rintro (_ | _)
      · exact ⟨⟨0, 1, 50, .idle, 1000⟩, 0, rfl⟩
      · exact ⟨⟨1, 0, 50, .idle, 1005⟩, 0, rfl⟩
    · rintro (_ | _) <;> decide
    · rintro (_ | _) <;> decide
  have admitted : Always step Admitted twoStarts restartedWest := by decide
  refine ⟨by decide, by decide, (elderDecides fresh admitted ?_ ?_).2 (by decide)⟩
  · exact alwaysCons.mpr ⟨.settle (by decide) (by decide), alwaysCons.mpr ⟨.settle (by decide) (by decide),
      alwaysNil _ _ _⟩⟩
  · rintro (_ | _) <;> decide

end PlatformRte.Dual.Exclusion
