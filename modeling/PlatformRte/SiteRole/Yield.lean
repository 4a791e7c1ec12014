import PlatformRte.SiteRole.TwoSite
import PlatformRte.Lib.History

/-! Which of two ONLINE sites yields. The site that was cut off is to yield to the one
that took over meanwhile; what it goes by is that its link was torn down while it was
ONLINE, and a tear-down may also come after its own promotion. -/
namespace PlatformRte.SiteRole.Yield
open TwoSite Machine History RteSiteRole

abbrev Log := List (Party × SiteRoleChange)

def lastPromoted : Log → Option Party
  | [] => none
  | entry :: earlier => if entry.2.kind = .promoted then some entry.1 else lastPromoted earlier

def Yields (change : SiteRoleChange) : Prop := change.kind = .demoted ∧ change.reason = .yieldToTakeover

def OnlyOvertaken (entry : Party × SiteRoleChange) (earlier : Log) : Prop :=
  Yields entry.2 → lastPromoted earlier = some entry.1.other

instance (entry : Party × SiteRoleChange) (earlier : Log) : Decidable (OnlyOvertaken entry earlier) :=
  inferInstanceAs (Decidable (_ ∧ _ → _))

def NeverBoth (log : Log) : Prop :=
  ∀ p later change middle change' earlier, log = later ++ (p.other, change) :: (middle ++ (p, change') :: earlier) →
    Yields change → Yields change' → ∃ entry ∈ middle, entry.2.kind = .promoted

def Disciplined (confirmed p : Party) : Action → Prop
  | .begin _ own _ => Alone own ∧ own.faulted = false
  | .syncStandby _ own _ _ => Alone own ∧ own.faulted = false
  | .onTakeoverConfirm _ => p = confirmed
  | .onTakeoverToken _ _ _ => p = confirmed
  | .noteLostContact => False
  | _ => True

def Admitted (confirmed : Party) (s : Sites) (e : Party × Action) : Prop :=
  InTurn (s.get e.1) e.2 ∧ Disciplined confirmed e.1 e.2

instance (confirmed p : Party) : ∀ a, Decidable (Disciplined confirmed p a)
  | .begin _ own _ => inferInstanceAs (Decidable (Alone own ∧ own.faulted = false))
  | .syncStandby _ own _ _ => inferInstanceAs (Decidable (Alone own ∧ own.faulted = false))
  | .onTakeoverConfirm .. | .onTakeoverToken .. => inferInstanceAs (Decidable (p = confirmed))
  | .noteLostContact => isFalse id
  | .finish .. | .serviceLink .. | .flushFaulted .. | .shutdown => isTrue True.intro

instance (confirmed : Party) (s : Sites) (e : Party × Action) : Decidable (Admitted confirmed s e) :=
  inferInstanceAs (Decidable (_ ∧ _))

def Unopposed (rs : RteSiteRole) (inbox : List Bytes) (other : Site) : Prop :=
  other.rs.online = false ∧ rs.peerOnlineNow = false ∧ ∀ raw ∈ inbox, frameValid rs.cfg.frameSize raw = false

instance (rs : RteSiteRole) (inbox : List Bytes) (other : Site) : Decidable (Unopposed rs inbox other) :=
  inferInstanceAs (Decidable (_ ∧ _ ∧ _))

/- The second half of a cycle may tear the link down while ONLINE only before the
counterpart can have taken over, or after it did; a site that this very cycle promotes
has not been taken over. -/
def InTime (s : Sites) (p : Party) (delivery : Delivery) (own : SiteRoleLocal) (sendOk : Bool) : Prop :=
  let heard := (receiveFrame (s.get p).rs (answer (s.get p).inbox delivery)).1
  let unopposed := Unopposed heard (remaining (s.get p).inbox delivery) (s.get p.other)
  linkDead (countSendMiss (s.get p).rs sendOk) (answer (s.get p).inbox delivery).status = true →
    if (s.get p).rs.online = true then lastPromoted s.log = some p.other ∨ unopposed
    else (decision (staleDropped heard) own).action = .promote → unopposed

def TornInTime (s : Sites) : Party × Action → Prop
  | (p, .finish delivery) => ∀ half ∈ (s.get p).pending, InTime s p delivery half.1 half.2
  | _ => True

instance (s : Sites) (p : Party) (delivery : Delivery) (own : SiteRoleLocal) (sendOk : Bool) :
    Decidable (InTime s p delivery own sendOk) := by
  unfold InTime
  infer_instance

instance (s : Sites) : ∀ e, Decidable (TornInTime s e)
  | (p, .finish delivery) => inferInstanceAs
      (Decidable (∀ half ∈ (s.get p).pending, InTime s p delivery half.1 half.2))
  | (_, .begin ..) | (_, .serviceLink ..) | (_, .syncStandby ..) | (_, .flushFaulted ..) | (_, .onTakeoverConfirm ..)
  | (_, .onTakeoverToken ..) | (_, .noteLostContact) | (_, .shutdown) => isTrue True.intro

theorem lastPromotedPast {middle : Log} (earlier : Log) (others : ∀ entry ∈ middle, entry.2.kind ≠ .promoted) :
    lastPromoted (middle ++ earlier) = lastPromoted earlier := by
  induction middle with
  | nil => rfl
  | cons entry rest ih =>
    rw [List.cons_append, lastPromoted, if_neg (others entry List.mem_cons_self)]
    exact ih fun later member => others later (List.mem_cons_of_mem entry member)

theorem neverBoth {log : Log} (each : Each OnlyOvertaken log) : NeverBoth log := by
  intro p later change middle change' earlier split first second
  subst split
  have last : Each OnlyOvertaken ((p.other, change) :: (middle ++ (p, change') :: earlier)) := eachEarlier each
  have after : lastPromoted (middle ++ (p, change') :: earlier) = some p := by
    have entry := last.1 first
    rwa [Party.otherOther] at entry
  have before : lastPromoted earlier = some p.other := eachEntry last.2 second
  by_contra none
  push Not at none
  have yielded : lastPromoted ((p, change') :: earlier) = lastPromoted earlier :=
    if_neg (by simp [second.1])
  rw [lastPromotedPast _ none, yielded, before] at after
  exact Party.otherNe p (Option.some.inj after)

structure Sound (own other : Site) : Prop where
  room : frameOverhead < own.rs.cfg.frameSize
  frameSize : other.rs.cfg.frameSize = own.rs.cfg.frameSize
  healthy : own.rs.localFaulted = false
  inbox : ∀ raw ∈ own.inbox, ∃ faulted live, Wire own.rs.cfg.frameSize faulted live raw

structure Inv (s : Sites) : Prop where
  sound : ∀ p, Sound (s.get p) (s.get p.other)
  lost : ∀ p, (s.get p).rs.lostPeerWhileOnline = true → (s.get p).rs.online = true ∧
    (lastPromoted s.log = some p.other ∨ Unopposed (s.get p).rs (s.get p).inbox (s.get p.other))
  each : Each OnlyOvertaken s.log

structure Known (site : Site) (s : RteSiteRole) : Prop where
  cfg : s.cfg = site.rs.cfg
  online : s.online = site.rs.online
  lost : s.lostPeerWhileOnline = site.rs.lostPeerWhileOnline
  changes : changes s = changes site.rs
  healthy : s.localFaulted = false
  quiet : site.rs.peerOnlineNow = false → (∀ raw ∈ site.inbox, frameValid site.rs.cfg.frameSize raw = false) →
    s.peerOnlineNow = false

theorem disciplinedFacts {confirmed p : Party} {a : Action} {own : SiteRoleLocal}
    (disciplined : Disciplined confirmed p a) (facts : a.facts = some own) : own.faulted = false := by
  cases a <;> cases facts
  · exact disciplined.2
  · exact disciplined.2

theorem passesKnown {site other : Site} {confirmed p : Party} {a : Action} {s : RteSiteRole} (sound : Sound site other)
    (disciplined : Disciplined confirmed p a) (passes : Passes site a s) : Known site s := by
  induction passes with
  | start => exact ⟨rfl, rfl, rfl, rfl, sound.healthy, fun quiet _ => quiet⟩
  | quiet _ unmoved ih =>
    have reports := congrArg (List.filterMap reportOf) unmoved.roleLog
    exact ⟨unmoved.cfg.trans ih.cfg, unmoved.online.trans ih.online, unmoved.lostPeerWhileOnline.trans ih.lost,
      reports.trans ih.changes, unmoved.localFaulted.trans ih.healthy,
      fun now silent => unmoved.peerOnlineNow.trans (ih.quiet now silent)⟩
  | taken _ facts ih =>
    exact ⟨ih.cfg, ih.online, ih.lost, ih.changes, disciplinedFacts disciplined facts, ih.quiet⟩
  | @decoded s raw _ arrived ih =>
    obtain ⟨faulted, live, wire⟩ := sound.inbox raw arrived
    have valid := wireValid sound.room wire
    rw [← ih.cfg] at wire
    have now := (decodedWire (by rw [ih.cfg]; exact sound.room) wire).2
    refine ⟨ih.cfg, ih.online, ih.lost, ih.changes, ih.healthy, fun _ silent => ?_⟩
    rw [now, ← valid, silent raw arrived]
    rfl
  | confirmed _ _ _ _ ih => exact ⟨ih.cfg, ih.online, ih.lost, ih.changes, ih.healthy, ih.quiet⟩
  | lost _ noted _ =>
    subst noted
    exact disciplined.elim

theorem actKnown {site other : Site} {confirmed p : Party} {a : Action} (sound : Sound site other)
    (disciplined : Disciplined confirmed p a) :
    (act site a).1.rs.cfg = site.rs.cfg ∧ (act site a).1.rs.localFaulted = false ∧
      (Unopposed site.rs site.inbox other →
        Unopposed (act site a).1.rs (act site a).1.inbox other) := by
  have unopposed : (act site a).1.rs.cfg = site.rs.cfg →
      (site.rs.peerOnlineNow = false → (∀ raw ∈ site.inbox, frameValid site.rs.cfg.frameSize raw = false) →
        (act site a).1.rs.peerOnlineNow = false) →
      Unopposed site.rs site.inbox other → Unopposed (act site a).1.rs (act site a).1.inbox other := by
    rintro cfg quiet ⟨standby, now, silent⟩
    refine ⟨standby, quiet now silent, fun raw left => ?_⟩
    rw [cfg]
    exact silent raw (inboxSub site a left)
  rcases acted site a with passes | ⟨own, s, s', decides, step, last⟩
  · have known := passesKnown sound disciplined passes
    exact ⟨known.cfg, known.healthy, unopposed known.cfg known.quiet⟩
  · have known := passesKnown sound disciplined (decidesPasses decides)
    have untouched := decidedUntouched step
    have cfg := untouched.cfg.trans known.cfg
    have quiet : site.rs.peerOnlineNow = false →
        (∀ raw ∈ site.inbox, frameValid site.rs.cfg.frameSize raw = false) → s'.peerOnlineNow = false :=
      fun now silent => untouched.peerOnlineNow.trans (known.quiet now silent)
    have healthy := untouched.localFaulted.trans known.healthy
    rcases last with ⟨_, equal⟩ | ⟨_, _, equal⟩ <;> rw [equal] at unopposed ⊢ <;>
      exact ⟨cfg, healthy, unopposed cfg quiet⟩

inductive Outcome (site other : Site) (log : Log) (p : Party) (rs' : RteSiteRole) (inbox' : List Bytes) : Prop where
  | kept (same : changes rs' = changes site.rs) (online : rs'.online = site.rs.online)
      (lost : rs'.lostPeerWhileOnline = true → site.rs.lostPeerWhileOnline = true ∨
        (site.rs.online = true ∧ (lastPromoted log = some p.other ∨ Unopposed rs' inbox' other)))
  | promoted (change : SiteRoleChange) (new : changes rs' = change :: changes site.rs)
      (kind : change.kind = .promoted) (standby : site.rs.online = false) (online : rs'.online = true)
      (lost : rs'.lostPeerWhileOnline = true → site.rs.lostPeerWhileOnline = true ∨ Unopposed rs' inbox' other)
  | yielded (change : SiteRoleChange) (new : changes rs' = change :: changes site.rs)
      (yields : Yields change) (was : site.rs.lostPeerWhileOnline = true)
      (opposed : ¬Unopposed site.rs site.inbox other) (online : rs'.online = false)
      (lost : rs'.lostPeerWhileOnline = false)

theorem tornUnopposed {s : Sites} {p : Party} {a : Action} {own : SiteRoleLocal} {facts s' : RteSiteRole}
    (inTime : TornInTime s (p, a)) (decides : Decides (s.get p) a own facts) (torn : TearsDown (s.get p) a)
    (step : Decided facts own s') (same : Same (tornDown s') (act (s.get p) a).1.rs) :
    if (s.get p).rs.online = true then lastPromoted s.log = some p.other ∨
        Unopposed (act (s.get p) a).1.rs (act (s.get p) a).1.inbox (s.get p.other)
      else (decision facts own).action = .promote →
        Unopposed (act (s.get p) a).1.rs (act (s.get p) a).1.inbox (s.get p.other) := by
  cases torn with
  | @dead delivery own' sendOk pending dead =>
    have untouched := decidedUntouched step
    cases decides with
    | received pending' =>
      rw [pending] at pending'
      cases pending'
      have inbox : (act (s.get p) (.finish delivery)).1.inbox = remaining (s.get p).inbox delivery := by
        simp only [act, pending]
      have unopposed : ∀ other, Unopposed (receiveFrame (s.get p).rs (answer (s.get p).inbox delivery)).1
          (remaining (s.get p).inbox delivery) other →
          Unopposed (act (s.get p) (.finish delivery)).1.rs (act (s.get p) (.finish delivery)).1.inbox other := by
        rintro other ⟨standby, now, silent⟩
        obtain ⟨_, equal⟩ := same
        have cfg : s'.cfg = (receiveFrame (s.get p).rs (answer (s.get p).inbox delivery)).1.cfg := untouched.cfg
        rw [equal, inbox]
        refine ⟨standby, untouched.peerOnlineNow.trans now, fun raw left => ?_⟩
        change frameValid s'.cfg.frameSize raw = false
        rw [cfg]
        exact silent raw left
      have given := inTime (own, sendOk) pending dead
      dsimp only at given
      split at given
      · rename_i online
        rw [if_pos online]
        exact given.imp_right (unopposed _)
      · rename_i standby
        rw [if_neg standby]
        exact fun promoted => unopposed _ (given promoted)

theorem outcome {s : Sites} {p confirmed : Party} {a : Action} (sound : Sound (s.get p) (s.get p.other))
    (disciplined : Disciplined confirmed p a) (inTime : TornInTime s (p, a)) :
    Outcome (s.get p) (s.get p.other) s.log p (act (s.get p) a).1.rs (act (s.get p) a).1.inbox := by
  rcases acted (s.get p) a with passes | ⟨own, facts, s', decides, step, last⟩
  · have known := passesKnown sound disciplined passes
    exact .kept known.changes known.online fun lost => Or.inl (known.lost.symm.trans lost)
  · have known := passesKnown sound disciplined (decidesPasses decides)
    have torn := fun tears same => tornUnopposed inTime decides tears step same
    cases step with
    | promoted action same =>
      have standby : (s.get p).rs.online = false := known.online.symm.trans (promoteStandby action).1
      obtain ⟨_, rfl⟩ := same
      rcases last with ⟨_, equal⟩ | ⟨tears, last⟩
      · rw [equal]
        exact .promoted _ (congrArg _ known.changes) rfl standby rfl fun lost => Or.inl (known.lost.symm.trans lost)
      · have unopposed := torn tears last
        simp only [standby, Bool.false_eq_true, if_false] at unopposed
        obtain ⟨_, equal⟩ := last
        rw [equal] at unopposed ⊢
        exact .promoted _ (congrArg _ known.changes) rfl standby rfl fun _ => Or.inr (unopposed action)
    | demoted action same =>
      rcases demoteCases action with ⟨rule, _⟩ | ⟨rule, lost, reason⟩
      · simp [recoveredRule, buildDecisionInput, known.healthy] at rule
      · have hears : facts.peerOnlineNow = true := by
          simp only [dualOnlineRule, Bool.and_eq_true] at rule
          exact rule.1.2
        have opposed : ¬Unopposed (s.get p).rs (s.get p).inbox (s.get p.other) := by
          rintro ⟨_, now, silent⟩
          rw [known.quiet now silent] at hears
          cases hears
        obtain ⟨_, rfl⟩ := same
        rcases last with ⟨_, equal⟩ | ⟨_, _, equal⟩ <;> rw [equal] <;>
          exact .yielded _ (congrArg _ known.changes) ⟨rfl, reason⟩ (known.lost.symm.trans lost) opposed rfl rfl
    | renegotiated action _ =>
      rw [decision, renegotiateIff] at action
      simp [bothFaultedRule, buildDecisionInput, known.healthy] at action
    | kept promote _ _ same =>
      obtain ⟨_, rfl⟩ := same
      rcases last with ⟨_, equal⟩ | ⟨tears, last⟩
      · rw [equal]
        exact .kept known.changes known.online fun lost => Or.inl (known.lost.symm.trans lost)
      · have unopposed := torn tears last
        obtain ⟨_, equal⟩ := last
        rw [equal] at unopposed ⊢
        refine .kept known.changes known.online fun lost => ?_
        have either : (facts.online || facts.lostPeerWhileOnline) = true := lost
        rw [known.online, known.lost, Bool.or_eq_true] at either
        rcases either with online | before
        · rw [if_pos online] at unopposed
          exact Or.inr ⟨online, unopposed⟩
        · exact Or.inl before

theorem reportedNone {p : Party} {before after : RteSiteRole} (same : changes after = changes before) :
    reported p before after = [] := by
  simp [reported, same]

theorem reportedOne {p : Party} {before after : RteSiteRole} {change : SiteRoleChange}
    (new : changes after = change :: changes before) : reported p before after = [(p, change)] := by
  simp [reported, new]

theorem lastPromotedOther {p : Party} {change : SiteRoleChange} {log : Log} (other : change.kind ≠ .promoted) :
    lastPromoted ((p, change) :: log) = lastPromoted log := if_neg other

theorem sentUnopposed {site other : Site} {a : Action} (sound : Sound other site)
    (unopposed : Unopposed other.rs other.inbox site) (standby : (act site a).1.rs.online = false) :
    Unopposed other.rs (other.inbox ++ (act site a).2.toList) (act site a).1 := by
  obtain ⟨offline, now, silent⟩ := unopposed
  refine ⟨standby, now, fun raw member => ?_⟩
  rcases arrived member with old | sent
  · exact silent raw old
  · rcases sentFrame sent with ⟨own, _, wire, _, _⟩ | ⟨_, wire⟩
    · rw [sound.frameSize, offline] at wire
      exact wireValid sound.room wire
    · rw [sound.frameSize] at wire
      exact wireValid sound.room wire

theorem soundOwn {site other : Site} {confirmed p : Party} {a : Action} (sound : Sound site other)
    (disciplined : Disciplined confirmed p a) : Sound (act site a).1 other := by
  obtain ⟨cfg, healthy, _⟩ := actKnown sound disciplined
  refine ⟨?_, ?_, healthy, fun raw left => ?_⟩ <;> rw [cfg]
  · exact sound.room
  · exact sound.frameSize
  · exact sound.inbox raw (inboxSub site a left)

theorem soundOther {site other : Site} {confirmed p : Party} {a : Action} (sound : Sound other site)
    (crossed : Sound site other) (disciplined : Disciplined confirmed p a) :
    Sound { other with inbox := other.inbox ++ (act site a).2.toList } (act site a).1 := by
  refine ⟨sound.room, ?_, sound.healthy, fun raw member => ?_⟩
  · rw [(actKnown crossed disciplined).1]
    exact sound.frameSize
  · rcases arrived member with old | sent
    · exact sound.inbox raw old
    · rcases sentFrame sent with ⟨_, _, wire, _, _⟩ | ⟨_, wire⟩ <;> rw [sound.frameSize] at wire <;>
        exact ⟨_, _, wire⟩

theorem stepLog (s : Sites) (p : Party) (a : Action) :
    (step s (p, a)).log = reported p (s.get p).rs (act (s.get p) a).1.rs ++ s.log := rfl

theorem lostOther {s : Sites} {p : Party} {a : Action} (inv : Inv s)
    (taken : (act (s.get p) a).1.rs.online = true → (s.get p).rs.online = true ∨
      lastPromoted (step s (p, a)).log = some p)
    (logged : lastPromoted s.log = some p → lastPromoted (step s (p, a)).log = some p)
    (lost : (s.get p.other).rs.lostPeerWhileOnline = true) :
    (s.get p.other).rs.online = true ∧ (lastPromoted (step s (p, a)).log = some p ∨
      Unopposed (s.get p.other).rs ((s.get p.other).inbox ++ (act (s.get p) a).2.toList) (act (s.get p) a).1) := by
  have sound := inv.sound p.other
  obtain ⟨online, meaning⟩ := inv.lost p.other lost
  rw [Party.otherOther] at sound meaning
  refine ⟨online, ?_⟩
  rcases meaning with overtaken | unopposed
  · exact Or.inl (logged overtaken)
  · cases role : (act (s.get p) a).1.rs.online
    · exact Or.inr (sentUnopposed sound unopposed role)
    · rcases taken role with was | promoted
      · rw [unopposed.1] at was
        cases was
      · exact Or.inl promoted

theorem invStep {confirmed : Party} (s : Sites) (e : Party × Action) (inv : Inv s)
    (admitted : Admitted confirmed s e ∧ TornInTime s e) : Inv (step s e) := by
  obtain ⟨p, a⟩ := e
  obtain ⟨⟨_, disciplined⟩, inTime⟩ := admitted
  have sound : ∀ q, Sound ((step s (p, a)).get q) ((step s (p, a)).get q.other) := by
    have crossed := inv.sound p.other
    rw [Party.otherOther] at crossed
    have own := soundOwn (inv.sound p) disciplined
    exact stepBoth ⟨own.room, own.frameSize, own.healthy, own.inbox⟩
      (soundOther crossed (inv.sound p) disciplined)
  have kept : (s.get p).rs.lostPeerWhileOnline = true → (s.get p).rs.online = true ∧
      (lastPromoted s.log = some p.other ∨
        Unopposed (act (s.get p) a).1.rs (act (s.get p) a).1.inbox (s.get p.other)) := by
    intro lost
    obtain ⟨online, meaning⟩ := inv.lost p lost
    exact ⟨online, meaning.imp_right (actKnown (inv.sound p) disciplined).2.2⟩
  have both : ((act (s.get p) a).1.rs.lostPeerWhileOnline = true → (act (s.get p) a).1.rs.online = true ∧
        (lastPromoted (step s (p, a)).log = some p.other ∨
          Unopposed (act (s.get p) a).1.rs (act (s.get p) a).1.inbox (s.get p.other))) ∧
      ((act (s.get p) a).1.rs.online = true → (s.get p).rs.online = true ∨
        lastPromoted (step s (p, a)).log = some p) ∧
      (lastPromoted s.log = some p → lastPromoted (step s (p, a)).log = some p) ∧
      Each OnlyOvertaken (step s (p, a)).log := by
    rw [stepLog]
    cases outcome (inv.sound p) disciplined inTime with
    | kept same online lost =>
      rw [reportedNone same, online]
      exact ⟨fun now => (lost now).elim kept id, Or.inl, id, inv.each⟩
    | promoted change new kind standby online lost =>
      have last : lastPromoted ((p, change) :: s.log) = some p := if_pos kind
      rw [reportedOne new]
      refine ⟨fun now => ⟨online, Or.inr ?_⟩, fun _ => Or.inr last, fun _ => last, fun yields => ?_, inv.each⟩
      · rcases lost now with was | unopposed
        · rw [(kept was).1] at standby
          cases standby
        · exact unopposed
      · rw [yields.1] at kind
        cases kind
    | yielded change new yields was opposed online lost =>
      have same : lastPromoted ((p, change) :: s.log) = lastPromoted s.log := lastPromotedOther (by simp [yields.1])
      rw [reportedOne new, online, lost]
      refine ⟨fun now => absurd now Bool.false_ne_true, fun now => absurd now Bool.false_ne_true,
        fun before => same.trans before, fun _ => ?_, inv.each⟩
      exact (inv.lost p was).2.resolve_right opposed
  obtain ⟨own, taken, logged, each⟩ := both
  refine ⟨sound, fun q => ?_, each⟩
  rcases Party.eqOrOther p q with rfl | rfl
  · rw [stepOwn, stepOther]
    exact own
  · rw [Party.otherOther, stepOwn, stepOther]
    exact lostOther inv taken logged

theorem invReady {s : Sites} (ready : Ready s) : Inv s := by
  have log : lastPromoted s.log = none := by rw [ready.log]; rfl
  refine ⟨fun p => ?_, fun p lost => ?_, by rw [ready.log]; exact True.intro⟩
  · have frameSize := readySize ready p
    obtain ⟨rs, setUp, fresh⟩ := ready.fresh p
    obtain ⟨cfg, up, online, sibling, rxCycle, room, ⟨_, rfl⟩, _⟩ := setUpSame setUp
    rw [fresh] at frameSize ⊢
    exact ⟨room, frameSize, rfl, fun raw member => by cases member⟩
  · obtain ⟨rs, setUp, fresh⟩ := ready.fresh p
    obtain ⟨cfg, up, online, sibling, rxCycle, room, ⟨_, rfl⟩, _⟩ := setUpSame setUp
    rw [fresh] at lost
    cases lost

/- As long as no tear-down comes too late or too early, a site yields only to one that
took over from it, and of two sites that yield one was promoted in between. -/
theorem onlyOvertakenYields {confirmed : Party} {start : Sites} {events : List (Party × Action)} (ready : Ready start)
    (admitted : Always step (Admitted confirmed) start events) (inTime : Always step TornInTime start events) :
    Each OnlyOvertaken (run step start events).log ∧ NeverBoth (run step start events).log := by
  have each := (invariantRun (invReady ready) invStep
    fun before e after split => ⟨admitted before e after split, inTime before e after split⟩).each
  exact ⟨each, neverBoth each⟩

def takenOver : List (Party × Action) :=
  [(.two, .begin 1 healthy silentCycle), (.two, .finish linkBroke),
    (.one, .begin 1 healthy silentCycle), (.one, .finish linkBroke),
    (.one, .onTakeoverConfirm 1), (.one, .begin 2 healthy noLink), (.one, .begin 3 healthy silentCycle),
    (.one, .finish noFrame), (.two, .begin 2 healthy silentCycle),
    (.two, .finish (.frame 1 true))]

def takenOverLate : List (Party × Action) :=
  [(.two, .begin 1 healthy silentCycle), (.two, .finish linkBroke),
    (.one, .begin 1 healthy silentCycle), (.one, .finish linkBroke),
    (.one, .onTakeoverConfirm 1), (.one, .begin 2 healthy noLink), (.one, .begin 3 healthy silentCycle),
    (.one, .finish linkBroke), (.one, .begin 4 healthy silentCycle),
    (.two, .begin 2 healthy silentCycle), (.two, .finish (.frame 2 true)), (.one, .finish (.frame 1 true))]

theorem takenOverYields :
    lastPromoted (run step eastOnline takenOver).log = some .one ∧
      ((run step eastOnline takenOver).get .two).rs.online = false ∧
      Each OnlyOvertaken (run step eastOnline takenOver).log ∧ NeverBoth (run step eastOnline takenOver).log := by
  have admitted : Always step (Admitted .one) eastOnline takenOver := by decide
  exact ⟨by decide, by decide, onlyOvertakenYields eastOnlineReady admitted (by decide)⟩

theorem bothYield :
    Ready eastOnline ∧ Always step (Admitted .one) eastOnline takenOverLate ∧
      ((run step eastOnline takenOverLate).get .one).rs.online = false ∧
      ((run step eastOnline takenOverLate).get .two).rs.online = false ∧
      ¬Each OnlyOvertaken (run step eastOnline takenOverLate).log ∧
      ¬NeverBoth (run step eastOnline takenOverLate).log := by
  refine ⟨eastOnlineReady, by decide, by decide, by decide, by decide, fun never => ?_⟩
  obtain ⟨_, member, _⟩ := never .two [] _ [] _ _ rfl ⟨rfl, rfl⟩ ⟨rfl, rfl⟩
  cases member

end PlatformRte.SiteRole.Yield
