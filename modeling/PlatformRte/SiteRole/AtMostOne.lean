import PlatformRte.SiteRole.TwoSite

/-! Two sites that no dispatcher confirms are never both ONLINE with neither of them
faulted. Only WEST can promote itself against a healthy counterpart, and then it has
counted six cycles in which EAST answered as STANDBY; but a healthy EAST that is
ONLINE never sent anything else than ONLINE frames. -/
namespace PlatformRte.SiteRole.AtMostOne
open TwoSite Machine RteSiteRole

def nextCycle (site : Site) : Nat :=
  match site.lastCycle with
  | none => 0
  | some last => last.toNat + 1

/- No confirmation, no sibling, a fault that stays, a FAULTED flush only of a faulted
site, and cycle numbers that grow. -/
def Disciplined (site : Site) : Action → Prop
  | .begin cycle own _ => Alone own ∧ (site.rs.localFaulted = true → own.faulted = true) ∧ nextCycle site ≤ cycle.toNat
  | .syncStandby _ own _ _ => Alone own ∧ (site.rs.localFaulted = true → own.faulted = true)
  | .flushFaulted _ _ => site.rs.localFaulted = true
  | .onTakeoverConfirm _ => False
  | .onTakeoverToken _ _ _ => False
  | _ => True

def Admitted (s : Sites) (e : Party × Action) : Prop := InTurn (s.get e.1) e.2 ∧ Disciplined (s.get e.1) e.2

instance (site : Site) : ∀ a, Decidable (Disciplined site a)
  | .begin cycle own _ => inferInstanceAs
      (Decidable (Alone own ∧ (site.rs.localFaulted = true → own.faulted = true) ∧ nextCycle site ≤ cycle.toNat))
  | .syncStandby _ own _ _ => inferInstanceAs
      (Decidable (Alone own ∧ (site.rs.localFaulted = true → own.faulted = true)))
  | .flushFaulted _ _ => inferInstanceAs (Decidable (site.rs.localFaulted = true))
  | .onTakeoverConfirm .. | .onTakeoverToken .. => isFalse id
  | .finish .. | .serviceLink .. | .noteLostContact | .shutdown => isTrue True.intro

instance (s : Sites) (e : Party × Action) : Decidable (Admitted s e) :=
  inferInstanceAs (Decidable (_ ∧ _))

def Serves (site : Site) : Prop := site.rs.online = true ∧ site.rs.localFaulted = false

instance (site : Site) : Decidable (Serves site) := inferInstanceAs (Decidable (_ ∧ _))

theorem disciplinedFacts {site : Site} {a : Action} {own : SiteRoleLocal} (disciplined : Disciplined site a)
    (facts : a.facts = some own) : Alone own ∧ (site.rs.localFaulted = true → own.faulted = true) := by
  cases a <;> cases facts
  · exact ⟨disciplined.1, disciplined.2.1⟩
  · exact disciplined

theorem disciplinedConfirms {site : Site} {a : Action} (disciplined : Disciplined site a) : a.confirms = false := by
  cases a with
  | onTakeoverConfirm => exact disciplined.elim
  | onTakeoverToken => exact disciplined.elim
  | _ => rfl

structure Sound (own other : Site) : Prop where
  room : frameOverhead < own.rs.cfg.frameSize
  frameSize : other.rs.cfg.frameSize = own.rs.cfg.frameSize
  alone : own.rs.cfg.siblingSource = false
  unconfirmed : own.rs.takeoverConfirmed = false
  heard : own.rs.peerFaulted = true → other.rs.localFaulted = true
  inbox : ∀ raw ∈ own.inbox, ∃ faulted live, Wire own.rs.cfg.frameSize faulted live raw ∧
    (faulted = true → other.rs.localFaulted = true)
  pending : ∀ facts sendOk, own.pending = some (facts, sendOk) → Alone facts ∧ own.lastCycle = some own.rs.cycle
  counted : own.rs.bothStandbyCycles.toNat + own.pending.toList.length ≤ nextCycle own

structure Guarded (west : Site) : Prop where
  standby : west.rs.online = false
  heard : west.rs.peerOnlineNow = true ∨ west.rs.peerLastRxCycle = 0
  inbox : ∀ raw ∈ west.inbox, Wire west.rs.cfg.frameSize false true raw

structure Inv (s : Sites) : Prop where
  west : (s.get .one).rs.cfg.isWest = true
  east : (s.get .two).rs.cfg.isWest = false
  sound : ∀ p, Sound (s.get p) (s.get p.other)
  guarded : Serves (s.get .two) → (s.get .one).rs.localFaulted = false → Guarded (s.get .one)

structure Known (site other : Site) (s : RteSiteRole) : Prop where
  cfg : s.cfg = site.rs.cfg
  online : s.online = site.rs.online
  counter : s.bothStandbyCycles = site.rs.bothStandbyCycles
  unconfirmed : s.takeoverConfirmed = false
  heard : s.peerFaulted = true → other.rs.localFaulted = true
  faulted : site.rs.localFaulted = true → s.localFaulted = true

theorem passesKnown {site other : Site} {a : Action} {s : RteSiteRole} (sound : Sound site other)
    (disciplined : Disciplined site a) (passes : Passes site a s) : Known site other s := by
  induction passes with
  | start => exact ⟨rfl, rfl, rfl, sound.unconfirmed, sound.heard, id⟩
  | quiet _ unmoved ih =>
    exact ⟨unmoved.cfg.trans ih.cfg, unmoved.online.trans ih.online, unmoved.bothStandbyCycles.trans ih.counter,
      unmoved.takeoverConfirmed.trans ih.unconfirmed, fun heard => ih.heard (unmoved.peerFaulted.symm.trans heard),
      fun faulted => unmoved.localFaulted.trans (ih.faulted faulted)⟩
  | taken _ facts ih =>
    exact ⟨ih.cfg, ih.online, ih.counter, ih.unconfirmed, ih.heard, (disciplinedFacts disciplined facts).2⟩
  | @decoded s raw _ arrived ih =>
    refine ⟨ih.cfg, ih.online, ih.counter, rfl, fun faulted => ?_, ih.faulted⟩
    obtain ⟨said, live, wire, true_⟩ := sound.inbox raw arrived
    rw [← ih.cfg] at wire
    rw [(decodedWire (by rw [ih.cfg]; exact sound.room) wire).1] at faulted
    exact true_ faulted
  | confirmed _ confirms _ _ _ =>
    rw [disciplinedConfirms disciplined] at confirms
    cases confirms
  | lost _ _ ih => exact ⟨ih.cfg, ih.online, ih.counter, ih.unconfirmed, ih.heard, ih.faulted⟩

theorem decidesAlone {site other : Site} {a : Action} {own : SiteRoleLocal} {s : RteSiteRole} (sound : Sound site other)
    (disciplined : Disciplined site a) (decides : Decides site a own s) : Alone own := by
  cases decides with
  | closed down => exact disciplined.1
  | received pending => exact (sound.pending _ _ pending).1

theorem promotionTieBreak {s : RteSiteRole} {own : SiteRoleLocal} (alone : s.cfg.siblingSource = false)
    (single : Alone own) (unconfirmed : s.takeoverConfirmed = false) (healthy : s.peerFaulted = false)
    (promoted : (decision s own).action = .promote) :
    bothStandbyRule (buildDecisionInput s own) = true ∧ s.cfg.isWest = true ∧ 5 ≤ s.bothStandbyCycles.toNat := by
  have sibling : (buildDecisionInput s own).siblingOnline = false := by
    simp [buildDecisionInput, siblingOnlineFact, alone, single.1]
  rcases promoteCases promoted with rule | rule | ⟨rule, won⟩ | rule
  · simp [peerFaultedRule, buildDecisionInput, healthy] at rule
  · have confirmed := (takeoverFacts rule).2.2.2.1
    rw [show (buildDecisionInput s own).takeoverConfirmed = s.takeoverConfirmed from rfl, unconfirmed] at confirmed
    cases confirmed
  · rw [sibling] at won
    exact ⟨rule, tiebreakFacts won⟩
  · simp [followSiblingRule, sibling] at rule

theorem decidedOnline {s s' : RteSiteRole} {own : SiteRoleLocal} (step : Decided s own s')
    (sound : s.localFaulted = false) (online : s'.online = true) :
    s.online = true ∨ (decision s own).action = .promote := by
  cases step with
  | promoted action _ => exact Or.inr action
  | demoted _ same =>
    obtain ⟨_, rfl⟩ := same
    cases online
  | renegotiated action _ =>
    rw [decision, renegotiateIff] at action
    simp [bothFaultedRule, buildDecisionInput, sound] at action
  | kept _ _ _ same =>
    obtain ⟨_, rfl⟩ := same
    exact Or.inl online

theorem actOnline {site other : Site} {a : Action} (sound : Sound site other) (disciplined : Disciplined site a)
    (healthy : (act site a).1.rs.localFaulted = false) (whole : other.rs.localFaulted = false)
    (online : (act site a).1.rs.online = true) :
    site.rs.online = true ∨ ∃ own s, Decides site a own s ∧ bothStandbyRule (buildDecisionInput s own) = true ∧
      site.rs.cfg.isWest = true ∧ 5 ≤ site.rs.bothStandbyCycles.toNat := by
  rcases acted site a with passes | ⟨own, s, s', decides, step, last⟩
  · exact Or.inl ((passesKnown sound disciplined passes).online.symm.trans online)
  · have known := passesKnown sound disciplined (decidesPasses decides)
    have final : s'.online = true ∧ s'.localFaulted = false := by
      rcases last with ⟨_, equal⟩ | ⟨_, _, equal⟩ <;> rw [equal] at online healthy <;> exact ⟨online, healthy⟩
    have unfaulted : s.localFaulted = false := (decidedUntouched step).localFaulted.symm.trans final.2
    have peer : s.peerFaulted = false := by
      by_contra faulted
      have told := known.heard (by simpa using faulted)
      rw [whole] at told
      cases told
    rcases decidedOnline step unfaulted final.1 with was | promoted
    · exact Or.inl (known.online.symm.trans was)
    · have alone : s.cfg.siblingSource = false := by rw [known.cfg]; exact sound.alone
      obtain ⟨rule, west, six⟩ :=
        promotionTieBreak alone (decidesAlone sound disciplined decides) known.unconfirmed peer promoted
      exact Or.inr ⟨own, s, decides, rule, known.cfg ▸ west, known.counter ▸ six⟩

theorem actKnown {site other : Site} {a : Action} (sound : Sound site other) (disciplined : Disciplined site a) :
    (act site a).1.rs.cfg = site.rs.cfg ∧ (act site a).1.rs.takeoverConfirmed = false ∧
      ((act site a).1.rs.peerFaulted = true → other.rs.localFaulted = true) ∧
      (site.rs.localFaulted = true → (act site a).1.rs.localFaulted = true) := by
  rcases acted site a with passes | ⟨own, s, s', decides, step, last⟩
  · have known := passesKnown sound disciplined passes
    exact ⟨known.cfg, known.unconfirmed, known.heard, known.faulted⟩
  · have known := passesKnown sound disciplined (decidesPasses decides)
    have untouched := decidedUntouched step
    have unconfirmed : s'.takeoverConfirmed = false := by
      cases step with
      | promoted _ same => obtain ⟨_, rfl⟩ := same; rfl
      | demoted _ same => obtain ⟨_, rfl⟩ := same; exact known.unconfirmed
      | renegotiated _ same => obtain ⟨_, rfl⟩ := same; exact known.unconfirmed
      | kept _ _ _ same => obtain ⟨_, rfl⟩ := same; exact known.unconfirmed
    have cfg : s'.cfg = site.rs.cfg := untouched.cfg.trans known.cfg
    have heard : s'.peerFaulted = true → other.rs.localFaulted = true :=
      fun faulted => known.heard (untouched.peerFaulted.symm.trans faulted)
    have fault : site.rs.localFaulted = true → s'.localFaulted = true :=
      fun faulted => untouched.localFaulted.trans (known.faulted faulted)
    rcases last with ⟨_, equal⟩ | ⟨_, _, equal⟩ <;> rw [equal] <;> exact ⟨cfg, unconfirmed, heard, fault⟩

theorem actCounted {site other : Site} {a : Action} (sound : Sound site other) (turn : InTurn site a)
    (disciplined : Disciplined site a) :
    (act site a).1.rs.bothStandbyCycles.toNat + (act site a).1.pending.toList.length ≤ nextCycle (act site a).1 := by
  have counted := sound.counted
  have counter : (act site a).1.rs.bothStandbyCycles.toNat ≤ site.rs.bothStandbyCycles.toNat ∨
      ((∃ own s, Decides site a own s) ∧
        (act site a).1.rs.bothStandbyCycles.toNat ≤ site.rs.bothStandbyCycles.toNat + 1) := by
    rcases acted site a with passes | ⟨own, s, s', decides, step, last⟩
    · rw [(passesKnown sound disciplined passes).counter]
      exact Or.inl le_rfl
    · have bound := decidedCounter step
      rw [(passesKnown sound disciplined (decidesPasses decides)).counter] at bound
      refine Or.inr ⟨⟨own, s, decides⟩, ?_⟩
      rcases last with ⟨_, equal⟩ | ⟨_, _, equal⟩ <;> rw [equal] <;> exact bound
  cases a with
  | begin cycle own io =>
    have later := disciplined.2.2
    have next : nextCycle (act site (.begin cycle own io)).1 = cycle.toNat + 1 := rfl
    have idle : site.pending = none := turn
    rw [idle] at counted
    simp only [Option.toList_none, List.length_nil] at counted
    rw [next]
    cases up : linkUp site.rs io
    · have closed : (act site (.begin cycle own io)).1.pending = none := by
        simp [act, (beginClosed cycle own up).1]
      rw [closed]
      simp only [Option.toList_none, List.length_nil]
      omega
    · have one : (act site (.begin cycle own io)).1.pending.toList.length ≤ 1 := by
        cases (act site (.begin cycle own io)).1.pending <;> simp
      rcases counter with same | ⟨⟨_, _, decides⟩, _⟩
      · omega
      · cases decides with
        | closed down => rw [up] at down; cases down
  | finish delivery =>
    cases pending : site.pending with
    | none =>
      have same : act site (.finish delivery) = (site, none) := by simp [act, pending]
      rw [same]
      exact counted
    | some halfway =>
      have done : (act site (.finish delivery)).1.pending = none ∧
          nextCycle (act site (.finish delivery)).1 = nextCycle site := by
        simp only [act, pending, true_and]
        rfl
      rw [done.1, done.2]
      rw [pending] at counted
      simp only [Option.toList_none, Option.toList_some, List.length_nil, List.length_singleton] at counted ⊢
      omega
  | onTakeoverConfirm => exact disciplined.elim
  | onTakeoverToken => exact disciplined.elim
  | _ =>
    rcases counter with same | ⟨⟨_, _, decides⟩, _⟩
    · exact le_trans (Nat.add_le_add_right same _) counted
    · cases decides

theorem actPending {site other : Site} {a : Action} (sound : Sound site other) (turn : InTurn site a)
    (disciplined : Disciplined site a) (facts : SiteRoleLocal) (sendOk : Bool)
    (pending : (act site a).1.pending = some (facts, sendOk)) :
    Alone facts ∧ (act site a).1.lastCycle = some (act site a).1.rs.cycle := by
  cases a with
  | begin cycle own io =>
    cases up : linkUp site.rs io
    · simp [act, (beginClosed cycle own up).1] at pending
    · obtain ⟨frame, ⟨kept, equal⟩⟩ := beginOpen cycle own up
      simp only [act, frame, Option.map_some, Option.some.injEq, Prod.mk.injEq] at pending
      refine ⟨pending.1 ▸ disciplined.1, ?_⟩
      simp only [act, equal]
      rfl
  | finish delivery =>
    cases halfway : site.pending with
    | none =>
      have same : act site (.finish delivery) = (site, none) := by simp [act, halfway]
      rw [same] at pending ⊢
      exact sound.pending facts sendOk pending
    | some half =>
      simp [act, halfway] at pending
  | onTakeoverConfirm => exact disciplined.elim
  | onTakeoverToken => exact disciplined.elim
  | _ =>
    have idle : site.pending = none := turn
    have waiting : site.pending = some (facts, sendOk) := pending
    rw [idle] at waiting
    cases waiting

theorem soundOwn {site other : Site} {a : Action} (sound : Sound site other) (turn : InTurn site a)
    (disciplined : Disciplined site a) : Sound (act site a).1 other := by
  obtain ⟨cfg, unconfirmed, heard, _⟩ := actKnown sound disciplined
  refine ⟨?_, ?_, ?_, unconfirmed, heard, fun raw left => ?_, actPending sound turn disciplined,
    actCounted sound turn disciplined⟩ <;> rw [cfg]
  · exact sound.room
  · exact sound.frameSize
  · exact sound.alone
  · exact sound.inbox raw (inboxSub site a left)

theorem soundOther {site other : Site} {a : Action} (sound : Sound other site) (crossed : Sound site other)
    (disciplined : Disciplined site a) :
    Sound { other with inbox := other.inbox ++ (act site a).2.toList } (act site a).1 := by
  obtain ⟨cfg, _, _, fault⟩ := actKnown crossed disciplined
  refine ⟨sound.room, ?_, sound.alone, sound.unconfirmed, fun heard => fault (sound.heard heard), fun raw member => ?_,
    sound.pending, sound.counted⟩
  · rw [cfg]
    exact sound.frameSize
  · rcases arrived member with old | sent
    · obtain ⟨faulted, live, wire, told⟩ := sound.inbox raw old
      exact ⟨faulted, live, wire, fun said => fault (told said)⟩
    · rcases sentFrame sent with ⟨own, _, wire, taken, _⟩ | ⟨⟨singleMode, region, rfl⟩, wire⟩
      · rw [sound.frameSize] at wire
        exact ⟨_, _, wire, fun said => taken.trans said⟩
      · rw [sound.frameSize] at wire
        exact ⟨_, _, wire, fun _ => disciplined⟩

def Heard (s : RteSiteRole) : Prop := s.peerOnlineNow = true ∨ s.peerLastRxCycle = 0

theorem passesHeard {site : Site} {a : Action} {s : RteSiteRole} (room : frameOverhead < site.rs.cfg.frameSize)
    (guarded : Guarded site) (passes : Passes site a s) : s.cfg = site.rs.cfg ∧ Heard s := by
  induction passes with
  | start => exact ⟨rfl, guarded.heard⟩
  | quiet _ unmoved ih =>
    refine ⟨unmoved.cfg.trans ih.1, ?_⟩
    rw [Heard, unmoved.peerOnlineNow, unmoved.peerLastRxCycle]
    exact ih.2
  | @decoded s raw _ arrived ih =>
    have wire := guarded.inbox raw arrived
    rw [← ih.1] at wire room
    exact ⟨ih.1, Or.inl (decodedWire room wire).2⟩
  | _ => assumption

theorem decidedHeard {s s' : RteSiteRole} {own : SiteRoleLocal} (step : Decided s own s') (heard : Heard s) :
    Heard s' := by
  have after : ∀ adopted : Bool,
      s.peerOnlineNow = true ∨ (if adopted = true then 0 else s.peerLastRxCycle) = 0 := by
    intro adopted
    rcases heard with now | never
    · exact Or.inl now
    · rw [never]
      exact Or.inr (ite_self 0)
  cases step with
  | promoted _ same => obtain ⟨_, rfl⟩ := same; exact after _
  | demoted _ same => obtain ⟨_, rfl⟩ := same; exact after false
  | renegotiated _ same => obtain ⟨_, rfl⟩ := same; exact after _
  | kept _ _ _ same => obtain ⟨_, rfl⟩ := same; exact heard

theorem noTieBreak {site other : Site} {a : Action} {own : SiteRoleLocal} {s : RteSiteRole} (sound : Sound site other)
    (guarded : Guarded site) (decides : Decides site a own s)
    (rule : bothStandbyRule (buildDecisionInput s own) = true) : site.rs.bothStandbyCycles.toNat < 5 := by
  obtain ⟨_, _, up, answering, standby, _⟩ := bothStandbyFacts rule
  obtain ⟨_, now | never⟩ := passesHeard sound.room guarded (decidesPasses decides)
  · have said : s.peerOnlineNow = false := standby
    rw [now] at said
    cases said
  · have recent : s.cycle.toNat ≤ s.peerLastRxCycle.toNat + 2 := (answeringFacts answering).2
    rw [never] at recent
    cases decides with
    | closed down => cases up
    | @received delivery _ sendOk pending =>
      have cycle : (staleDropped (receiveFrame site.rs (answer site.inbox delivery)).1).cycle = site.rs.cycle :=
        (receiveListened site.rs (answer site.inbox delivery)).cycle
      have counted := sound.counted
      have next : nextCycle site = site.rs.cycle.toNat + 1 := by
        simp [nextCycle, (sound.pending _ _ pending).2]
      rw [cycle] at recent
      rw [next, pending] at counted
      simp only [Option.toList_some, List.length_singleton] at counted
      have zero : (0 : UInt32).toNat = 0 := rfl
      omega

theorem guardedWest {west east : Site} {a : Action} (sound : Sound west east) (disciplined : Disciplined west a)
    (guarded : Guarded west) (whole : east.rs.localFaulted = false)
    (healthy : (act west a).1.rs.localFaulted = false) : Guarded (act west a).1 := by
  refine ⟨?_, ?_, fun raw left => ?_⟩
  · by_contra online
    rcases actOnline sound disciplined healthy whole (by simpa using online) with was | ⟨own, s, decides, rule, _, six⟩
    · rw [guarded.standby] at was
      cases was
    · have few := noTieBreak sound guarded decides rule
      omega
  · rcases acted west a with passes | ⟨own, s, s', decides, step, last⟩
    · exact (passesHeard sound.room guarded passes).2
    · have heard := decidedHeard step (passesHeard sound.room guarded (decidesPasses decides)).2
      rcases last with ⟨_, equal⟩ | ⟨_, _, equal⟩ <;> rw [equal] <;> exact heard
  · rw [(actKnown sound disciplined).1]
    exact guarded.inbox raw (inboxSub west a left)

theorem guardedEast {west east : Site} {a : Action} (sound : Sound east west) (disciplined : Disciplined east a)
    (isEast : east.rs.cfg.isWest = false) (whole : west.rs.localFaulted = false) (serves : Serves (act east a).1)
    (guarded : Serves east → Guarded west) :
    Guarded { west with inbox := west.inbox ++ (act east a).2.toList } := by
  have healthy : east.rs.localFaulted = false := by
    by_contra faulted
    have still := (actKnown sound disciplined).2.2.2 (by simpa using faulted)
    rw [serves.2] at still
    cases still
  have online : east.rs.online = true := by
    rcases actOnline sound disciplined serves.2 whole serves.1 with was | ⟨_, _, _, _, isWest, _⟩
    · exact was
    · rw [isEast] at isWest
      cases isWest
  have before := guarded ⟨online, healthy⟩
  refine ⟨before.standby, before.heard, fun raw member => ?_⟩
  rcases arrived member with old | sent
  · exact before.inbox raw old
  · rcases sentFrame sent with ⟨own, _, wire, taken, _⟩ | ⟨⟨singleMode, region, rfl⟩, _⟩
    · rw [← taken, serves.2, online, ← sound.frameSize] at wire
      exact wire
    · rw [show east.rs.localFaulted = true from disciplined] at healthy
      cases healthy

theorem invStep (s : Sites) (e : Party × Action) (inv : Inv s) (admitted : Admitted s e) : Inv (step s e) := by
  obtain ⟨p, a⟩ := e
  obtain ⟨turn, disciplined⟩ := admitted
  have cfg : ((step s (p, a)).get p).rs.cfg = (s.get p).rs.cfg := by
    rw [stepOwn]
    exact (actKnown (inv.sound p) disciplined).1
  have cfgOther : ((step s (p, a)).get p.other).rs.cfg = (s.get p.other).rs.cfg := by rw [stepOther]
  have sound : ∀ q, Sound ((step s (p, a)).get q) ((step s (p, a)).get q.other) := by
    have crossed := inv.sound p.other
    rw [Party.otherOther] at crossed
    have own := soundOwn (inv.sound p) turn disciplined
    exact stepBoth ⟨own.room, own.frameSize, own.alone, own.unconfirmed, own.heard, own.inbox, own.pending, own.counted⟩
      (soundOther crossed (inv.sound p) disciplined)
  cases p with
  | one =>
    refine ⟨(congrArg SiteRoleConfig.isWest cfg).trans inv.west,
      (congrArg SiteRoleConfig.isWest cfgOther).trans inv.east, sound, fun serves healthy => ?_⟩
    have other := stepOther s .one a
    rw [stepOwn] at healthy ⊢
    rw [show (step s (.one, a)).get .two = _ from other] at serves
    refine guardedWest (inv.sound .one) disciplined (inv.guarded serves ?_) serves.2 healthy
    by_contra faulted
    have still := (actKnown (inv.sound .one) disciplined).2.2.2 (by simpa using faulted)
    rw [healthy] at still
    cases still
  | two =>
    refine ⟨(congrArg SiteRoleConfig.isWest cfgOther).trans inv.west,
      (congrArg SiteRoleConfig.isWest cfg).trans inv.east, sound, fun serves healthy => ?_⟩
    have other := stepOther s .two a
    rw [stepOwn] at serves
    rw [show (step s (.two, a)).get .one = _ from other] at healthy ⊢
    exact guardedEast (inv.sound .two) disciplined inv.east healthy serves fun was => inv.guarded was healthy

theorem invReady {s : Sites} (ready : Ready s)
    (one : ¬((s.get .one).rs.online = true ∧ (s.get .two).rs.online = true)) : Inv s := by
  refine ⟨ready.west, ready.east, fun p => ?_, fun serves _ => ?_⟩
  · have alone := ready.alone p
    have frameSize := readySize ready p
    obtain ⟨rs, setUp, fresh⟩ := ready.fresh p
    obtain ⟨cfg, up, online, sibling, rxCycle, room, ⟨_, rfl⟩, _⟩ := setUpSame setUp
    rw [fresh] at alone frameSize ⊢
    refine ⟨room, frameSize, alone, rfl, fun heard => ?_, fun raw member => ?_, fun _ _ pending => ?_, le_rfl⟩
    · cases heard
    · cases member
    · cases pending
  · have standby : (s.get .one).rs.online = false := by
      by_contra online
      exact one ⟨by simpa using online, serves.1⟩
    obtain ⟨rs, setUp, fresh⟩ := ready.fresh .one
    obtain ⟨cfg, up, online, sibling, rxCycle, room, ⟨_, rfl⟩, _⟩ := setUpSame setUp
    rw [fresh] at standby ⊢
    exact ⟨standby, Or.inr rfl, fun raw member => by cases member⟩

/- However the two sites' calls interleave, and whatever the link does, never both of
them serve. -/
theorem neverBothServe {start : Sites} {events : List (Party × Action)} (ready : Ready start)
    (one : ¬((start.get .one).rs.online = true ∧ (start.get .two).rs.online = true))
    (admitted : Always step Admitted start events) :
    ¬(Serves ((run step start events).get .one) ∧ Serves ((run step start events).get .two)) := by
  have inv := invariantRun (invReady ready one) invStep admitted
  rintro ⟨west, east⟩
  have standby := (inv.guarded east west.2).standby
  rw [west.1] at standby
  cases standby

def eastHeardOnce : List (Party × Action) :=
  [(.two, .begin 1 healthy silentCycle), (.one, .begin 1 healthy silentCycle), (.one, .finish (.frame 0 true)),
    (.two, .finish (.frame 0 true)), (.two, .begin 2 healthy silentCycle), (.one, .begin 2 healthy silentCycle),
    (.one, .finish linkBroke), (.two, .finish linkBroke),
    (.one, .begin 3 healthy silentCycle), (.one, .finish (.frame 0 false)), (.two, .begin 3 healthy noLink),
    (.two, .begin 4 healthy silentCycle), (.one, .begin 4 healthy silentCycle), (.one, .finish (.frame 0 true))]

theorem eastHeardOnceServes :
    Serves ((run step (eastOnline) eastHeardOnce).get .two) ∧
      ¬(Serves ((run step eastOnline eastHeardOnce).get .one) ∧
        Serves ((run step eastOnline eastHeardOnce).get .two)) :=
  ⟨by decide, neverBothServe eastOnlineReady (by decide) (by decide)⟩

end PlatformRte.SiteRole.AtMostOne
