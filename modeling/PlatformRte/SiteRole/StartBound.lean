import PlatformRte.SiteRole.Service
import PlatformRte.SiteRole.StartTime

/-! When a start is bounded: the times that the configuration must not exceed, and the link and
the counterpart that make the most of them. -/
namespace PlatformRte.SiteRole.StartTime
open PlatformRte.Dual

def failsUntil (n ms : Nat) (k : Nat) : Attempt := ⟨if k < n then .timeout else .ok, ms⟩

theorem failsLater (n ms : Nat) : (fun k => failsUntil (n + 1) ms (k + 1)) = failsUntil n ms := by
  funext k
  simp only [failsUntil, Nat.add_lt_add_iff_right]

theorem connectFails (rs : RteSiteRole) {waited : UInt32} {k : Nat} (n ms r : Nat)
    (counted : waited.toNat = k * rs.cfg.connectRetryMs.toNat % 2 ^ 32)
    (below : ∀ j < n, Under rs.cfg.startupTimeoutMs rs.cfg.connectRetryMs (k + j)) :
    ∃ rs' waited', rs'.cfg = rs.cfg ∧ waited'.toNat = (k + n) * rs.cfg.connectRetryMs.toNat % 2 ^ 32 ∧
      connectRetry rs waited ((firstOf (failsUntil n ms) (r + n)).map Attempt.status) =
        connectRetry rs' waited' ((firstOf (failsUntil 0 ms) r).map Attempt.status) ∧
      connectMs rs.cfg waited (firstOf (failsUntil n ms) (r + n)) =
        n * (ms + delayMs rs.cfg) + connectMs rs.cfg waited' (firstOf (failsUntil 0 ms) r) := by
  induction n generalizing rs waited k with
  | zero => exact ⟨rs, waited, rfl, counted, rfl, by rw [Nat.zero_mul, Nat.zero_add, Nat.add_zero]⟩
  | succ n ih =>
    have under : waited < rs.cfg.startupTimeoutMs := (countedUnder counted).mpr (below 0 (Nat.succ_pos n))
    have cfg := retryCfg rs .timeout
    have next : (waited + rs.cfg.connectRetryMs).toNat = (k + 1) *
        (connectDelay (openLinkOnce rs rs.cfg.connectTimeoutMs .timeout).1).cfg.connectRetryMs.toNat % 2 ^ 32 := by
      rw [cfg]
      exact countedNext counted
    obtain ⟨rs', waited', same, counted', retried, spent⟩ := ih _ next (by
      rw [cfg]
      intro j within
      rw [show k + 1 + j = k + (j + 1) by omega]
      exact below (j + 1) (Nat.succ_lt_succ within))
    rw [cfg] at same counted' spent
    have fails : (failsUntil (n + 1) ms 0).status = .timeout := by rw [failsUntil, if_pos (Nat.succ_pos n)]
    refine ⟨rs', waited', same, by rw [counted']; congr 2; omega, ?_, ?_⟩
    · rw [← Nat.add_assoc, firstSucc, failsLater, List.map_cons, fails]
      simp only [connectRetry, if_pos under]
      exact retried
    · rw [← Nat.add_assoc, firstSucc, failsLater]
      simp only [connectMs, if_pos under, fails, reduceCtorEq, if_false]
      rw [spent, Nat.succ_mul]
      have ms_ : (failsUntil (n + 1) ms 0).ms = ms := rfl
      rw [ms_]
      omega

def silentRounds (ms : Nat) (_ : Nat) : Round := ⟨⟨.down, [], 0⟩, ms⟩

def Unsettled (rs : RteSiteRole) : Prop := rs.negotiator.ownState = .idle ∧ rs.negotiator.haveLastPeerSeen = false

theorem silenceUnsettled {rs : RteSiteRole} (idle : Unsettled rs) : Unsettled (negotiate rs ⟨.down, [], 0⟩) := by
  obtain ⟨own, unseen⟩ := idle
  have settled : (dualNegotiatorExecute rs.negotiator ⟨.down, [], 0⟩) =
      { (negotiatorAnnounce rs.negotiator .down).1 with peerState := .idle } :=
    updateUnseen 0 unseen
  exact ⟨by rw [negotiate, settled]; exact own, by rw [negotiate, settled]; exact unseen⟩

theorem silentGoOn (rs : RteSiteRole) {waited : UInt32} {k : Nat} (n ms : Nat)
    (counted : waited.toNat = k * rs.cfg.linkPollMs.toNat % 2 ^ 32) (idle : Unsettled rs)
    (below : ∀ j < n, Under rs.cfg.startupTimeoutMs rs.cfg.linkPollMs (k + (j + 1))) :
    negotiateRounds rs waited ((firstOf (silentRounds ms) n).map Round.io) = none ∧
      ∀ r, (n + 1) * ms ≤ roundsMs rs waited (firstOf (silentRounds ms) (r + 1 + n)) := by
  induction n generalizing rs waited k with
  | zero =>
    refine ⟨rfl, fun r => ?_⟩
    rw [Nat.add_zero, firstSucc, roundsMs, Nat.one_mul]
    exact Nat.le_add_right _ _
  | succ n ih =>
    have next : (waited + rs.cfg.linkPollMs).toNat =
        (k + 1) * (negotiate rs ⟨.down, [], 0⟩).cfg.linkPollMs.toNat % 2 ^ 32 := countedNext counted
    have unsettled := silenceUnsettled idle
    have more : (negotiate rs (silentRounds ms 0).io).negotiator.ownState = .idle ∧
        waited + rs.cfg.linkPollMs < rs.cfg.startupTimeoutMs :=
      ⟨unsettled.1, (countedUnder next).mpr (below 0 (Nat.succ_pos n))⟩
    obtain ⟨open_, spent⟩ := ih _ next unsettled (by
      intro j within
      rw [show k + 1 + (j + 1) = k + (j + 1 + 1) by omega]
      exact below (j + 1) (Nat.succ_lt_succ within))
    refine ⟨?_, fun r => ?_⟩
    · rw [firstSucc, List.map_cons, negotiateRounds, if_pos more]
      exact open_
    · rw [← Nat.add_assoc, firstSucc, roundsMs, if_pos more, Nat.succ_mul, Nat.add_comm]
      exact Nat.add_le_add_left (spent r) ms

/- A relation between the configured times. Every count of steps is one that its counter takes
without reaching the start-up timeout. -/
structure InTime (cfg : SiteRoleConfig) : Prop where
  connects : cfg.listen = false → ∃ n, ¬Under cfg.startupTimeoutMs cfg.connectRetryMs n
  settles : ∃ m, ¬Under cfg.startupTimeoutMs cfg.linkPollMs (m + 1)
  listens : cfg.listen = true → ∀ m, (∀ j < m, Under cfg.startupTimeoutMs cfg.linkPollMs (j + 1)) →
    m * cfg.linkPollMs.toNat ≤ cfg.startupTimeoutMs.toNat + delayMs cfg
  retries : cfg.listen = false → ∀ n, (∀ j ≤ n, Under cfg.startupTimeoutMs cfg.connectRetryMs j) →
    n * (cfg.connectTimeoutMs.toNat + delayMs cfg) ≤ cfg.startupTimeoutMs.toNat + cfg.linkPollMs.toNat
  both : cfg.listen = false → ∀ n m, (∀ j ≤ n, Under cfg.startupTimeoutMs cfg.connectRetryMs j) →
    (∀ j < m, Under cfg.startupTimeoutMs cfg.linkPollMs (j + 1)) →
    n * (cfg.connectTimeoutMs.toNat + delayMs cfg) + m * cfg.linkPollMs.toNat ≤
      cfg.startupTimeoutMs.toNat + delayMs cfg

section Start
variable {rs : RteSiteRole} {b : Behaviour}

theorem joinedCfg (rs : RteSiteRole) (b : Behaviour) : (joined rs b).1.cfg = rs.cfg := by
  unfold joined startupRoleFromSibling
  split <;> rfl

theorem zeroCounted (step : UInt32) : (0 : UInt32).toNat = 0 * step.toNat % 2 ^ 32 := by
  rw [Nat.zero_mul]
  rfl

theorem openedCfg {rs opened : RteSiteRole} {answers : List RteStatus} {status : RteStatus}
    (done : openLinkBlocking rs answers = some (opened, status)) : opened.cfg = rs.cfg := by
  obtain ⟨_, ⟨_, equal⟩, _⟩ := openLinkBlockingSame done
  rw [equal]
  rfl

theorem readyCfg (rs : RteSiteRole) (resumeStandby : Bool) (nowMs : UInt64) :
    (initChannelAndNegotiator rs resumeStandby nowMs).1.cfg = rs.cfg := by
  obtain ⟨_, equal⟩ := initChannelSame rs resumeStandby nowMs
  rw [equal]
  rfl

theorem startParts (rs : RteSiteRole) (b : Behaviour) (n : Nat) : siteRoleStart rs (b.upTo n) =
    (openLinkBlocking (joined rs b).1 ((firstOf b.opens n).map Attempt.status)).bind fun opened =>
      if opened.2 ≠ .ok then some opened else startNegotiation opened.1 (joined rs b).2 (b.upTo n) := rfl

theorem openReturns (inTime : InTime rs.cfg) : ∃ n, ∀ r, n ≤ r →
    openLinkBlocking (joined rs b).1 ((firstOf b.opens r).map Attempt.status) ≠ none := by
  have cfg := joinedCfg rs b
  cases listen : rs.cfg.listen with
  | true =>
    refine ⟨1, fun r some_ => ?_⟩
    obtain ⟨r, rfl⟩ := Nat.exists_eq_add_of_le' some_
    rw [openLinkBlocking, cfg, if_pos listen, firstSucc]
    exact Option.some_ne_none _
  | false =>
    obtain ⟨n, passed⟩ := inTime.connects listen
    refine ⟨n, fun r enough open_ => ?_⟩
    rw [openLinkBlocking, cfg, listen, if_neg Bool.false_ne_true] at open_
    have under := connectGoesOn (zeroCounted _) open_ n (by rw [firstLength]; exact enough)
    rw [cfg, Nat.zero_add] at under
    exact passed under

theorem startReturns (inTime : InTime rs.cfg) : Returns rs b := by
  obtain ⟨n, opens⟩ := openReturns (b := b) inTime
  obtain ⟨m, passed⟩ := inTime.settles
  refine ⟨max n (m + 1), ?_⟩
  rw [← Option.ne_none_iff_isSome, startParts]
  intro open_
  have never := Option.bind_eq_none_iff.mp open_
  cases done : openLinkBlocking (joined rs b).1 ((firstOf b.opens (max n (m + 1))).map Attempt.status) with
  | none => exact opens _ (Nat.le_max_left _ _) done
  | some answer =>
    obtain ⟨opened, status⟩ := answer
    have rest := never (opened, status) done
    dsimp only at rest
    split at rest
    · cases rest
    · unfold startNegotiation at rest
      dsimp only at rest
      split at rest
      · cases rest
      · cases ran : negotiateRounds (initChannelAndNegotiator opened (joined rs b).2 b.initNowMs).1 0
          ((firstOf b.rounds (max n (m + 1))).map Round.io) with
        | none =>
          have under := roundsGoOn (zeroCounted _) ran m (by rw [firstLength]; omega)
          rw [readyCfg, openedCfg done, joinedCfg, Nat.zero_add] at under
          exact passed under
        | some settled =>
          have last := Option.bind_eq_none_iff.mp rest settled ran
          split at last <;> cases last

theorem opensObey (obeys : Obeys rs.cfg b) (listen : rs.cfg.listen = false) (n : Nat) :
    ∀ attempt ∈ firstOf b.opens n, attempt.ms ≤ (joined rs b).1.cfg.connectTimeoutMs.toNat := by
  intro attempt inside
  obtain ⟨k, rfl⟩ := firstMem inside
  have least := obeys.opens k
  rw [attemptMs, listen] at least
  rw [joinedCfg]
  exact least

theorem negotiationSpends (obeys : Obeys rs.cfg b) {opened : RteSiteRole} (cfg : opened.cfg = rs.cfg)
    (resumeStandby : Bool) (n : Nat) :
    ∃ m, (∀ j < m, Under rs.cfg.startupTimeoutMs rs.cfg.linkPollMs (j + 1)) ∧
      negotiationMs opened resumeStandby b.initNowMs (firstOf b.rounds n) ≤
        m * rs.cfg.linkPollMs.toNat + rs.cfg.linkPollMs.toNat := by
  unfold negotiationMs
  dsimp only
  have ready := (readyCfg opened resumeStandby b.initNowMs).trans cfg
  split
  · exact ⟨0, fun j within => absurd within (Nat.not_lt_zero j), Nat.zero_le _⟩
  · have polls : ∀ round ∈ firstOf b.rounds n,
        round.ms ≤ (initChannelAndNegotiator opened resumeStandby b.initNowMs).1.cfg.linkPollMs.toNat := by
      intro round inside
      obtain ⟨k, rfl⟩ := firstMem inside
      rw [ready]
      exact obeys.rounds k
    obtain ⟨m, below, spent⟩ := roundsSpend (zeroCounted _) polls
    rw [ready] at below spent
    exact ⟨m, fun j within => by rw [← Nat.zero_add (j + 1)]; exact below j within, spent⟩

theorem startSpends (inTime : InTime rs.cfg) (obeys : Obeys rs.cfg b) (n : Nat) : startMs rs b n ≤
    rs.cfg.startupTimeoutMs.toNat + attemptMs rs.cfg + delayMs rs.cfg + rs.cfg.linkPollMs.toNat := by
  unfold startMs
  dsimp only
  cases listen : rs.cfg.listen with
  | true =>
    have first : openMs rs.cfg (firstOf b.opens n) ≤ attemptMs rs.cfg := by
      rw [openMs, if_pos listen]
      cases n with
      | zero => exact Nat.zero_le _
      | succ n =>
        rw [firstSucc]
        exact obeys.opens 0
    split
    · rename_i opened done
      obtain ⟨m, below, spent⟩ := negotiationSpends obeys ((openedCfg done).trans (joinedCfg rs b)) (joined rs b).2 n
      have enough := inTime.listens listen m below
      omega
    · omega
  | false =>
    have attempt : attemptMs rs.cfg = rs.cfg.connectTimeoutMs.toNat := by rw [attemptMs, listen]; rfl
    have cfg := joinedCfg rs b
    have spends := connectSpends (zeroCounted _) (opensObey obeys listen n)
    rw [cfg] at spends
    have opens : openMs rs.cfg (firstOf b.opens n) = connectMs rs.cfg 0 (firstOf b.opens n) := by
      rw [openMs, listen]
      rfl
    have blocking : openLinkBlocking (joined rs b).1 ((firstOf b.opens n).map Attempt.status) =
        connectRetry (joined rs b).1 0 ((firstOf b.opens n).map Attempt.status) := by
      rw [openLinkBlocking, cfg, listen]
      rfl
    rw [opens, blocking, attempt]
    rcases spends with ⟨nothing, never⟩ | ⟨k, below, spent, success⟩
    · split
      · rename_i opened done
        exact absurd done (never opened)
      · omega
    · simp only [Nat.zero_add] at below
      split
      · rename_i opened done
        have opening := success opened done
        rw [← blocking] at done
        obtain ⟨m, settling, waited⟩ := negotiationSpends obeys ((openedCfg done).trans cfg) (joined rs b).2 n
        have enough := inTime.both listen k m below settling
        omega
      · have enough := inTime.retries listen k below
        omega

end Start

def worst (cfg : SiteRoleConfig) (opens : Nat → Attempt) : Behaviour where
  nowMs := 0
  siblingFrame := none
  initNowMs := 0
  opens := opens
  rounds := silentRounds cfg.linkPollMs.toNat

section Worst
variable {rs : RteSiteRole} {n : Nat}

theorem worstObeys (cfg : SiteRoleConfig) (n : Nat) : Obeys cfg (worst cfg (failsUntil n (attemptMs cfg))) :=
  ⟨fun _ => Nat.le_refl _, fun _ => Nat.le_refl _⟩

theorem freshlyJoined (standby : rs.online = false) (alone : rs.sibling.known = false) (opens : Nat → Attempt) :
    (joined rs (worst rs.cfg opens)).2 = false ∧ (joined rs (worst rs.cfg opens)).1.online = false := by
  have unknown : (pollSiblingSource (startReset rs 0) 0 none).sibling.known = false := by
    unfold pollSiblingSource
    cases (startReset rs 0).cfg.siblingSource <;> exact alone
  have undecided : ¬((pollSiblingSource (startReset rs 0) 0 none).cfg.siblingSource &&
      (pollSiblingSource (startReset rs 0) 0 none).sibling.known) = true := by
    rw [unknown, Bool.and_false]
    exact Bool.false_ne_true
  have same : joined rs (worst rs.cfg opens) = (pollSiblingSource (startReset rs 0) 0 none, false) := if_neg undecided
  rw [same]
  exact ⟨rfl, standby⟩

theorem openedUnsettled {rs opened : RteSiteRole} {answers : List RteStatus} (standby : rs.online = false)
    (done : openLinkBlocking rs answers = some (opened, .ok)) (nowMs : UInt64) :
    (initChannelAndNegotiator opened false nowMs).2 = .ok ∧
      Unsettled (initChannelAndNegotiator opened false nowMs).1 := by
  obtain ⟨up, ⟨kept, equal⟩, ok, _⟩ := openLinkBlockingSame done
  have link : opened.link = true := by rw [equal]; exact ok rfl
  have online : opened.online = false := by rw [equal]; exact standby
  simp only [initChannelAndNegotiator, dualChannelInit, link, online, if_true, if_false, ne_eq, not_true_eq_false,
    Bool.false_eq_true]
  exact ⟨trivial, rfl, rfl⟩

def LetsFail (cfg : SiteRoleConfig) (n : Nat) : Prop :=
  cfg.listen = true ∧ n = 0 ∨
    cfg.listen = false ∧ ∀ j ≤ n, Under cfg.startupTimeoutMs cfg.connectRetryMs j

theorem worstOpens (r : Nat) (comes : LetsFail rs.cfg n) :
    (∃ opened, openLinkBlocking (joined rs (worst rs.cfg (failsUntil n (attemptMs rs.cfg)))).1
        ((firstOf (failsUntil n (attemptMs rs.cfg)) (r + 1 + n)).map Attempt.status) = some (opened, .ok)) ∧
      openMs rs.cfg (firstOf (failsUntil n (attemptMs rs.cfg)) (r + 1 + n)) =
        n * (attemptMs rs.cfg + delayMs rs.cfg) + attemptMs rs.cfg := by
  have same := joinedCfg rs (worst rs.cfg (failsUntil n (attemptMs rs.cfg)))
  rcases comes with ⟨listen, rfl⟩ | ⟨listen, below⟩
  · have side : (joined rs (worst rs.cfg (failsUntil 0 (attemptMs rs.cfg)))).1.cfg.listen = true := by
      rw [same]
      exact listen
    rw [openLinkBlocking, if_pos side, openMs, if_pos listen, Nat.add_zero, firstSucc]
    exact ⟨⟨_, rfl⟩, by rw [Nat.zero_mul, Nat.zero_add]; rfl⟩
  · have side : ¬(joined rs (worst rs.cfg (failsUntil n (attemptMs rs.cfg)))).1.cfg.listen = true := by
      rw [same]
      exact Bool.eq_false_iff.mp listen
    obtain ⟨rs', waited', cfg, counted, retried, spent⟩ := connectFails
      (joined rs (worst rs.cfg (failsUntil n (attemptMs rs.cfg)))).1 n (attemptMs rs.cfg) (r + 1)
      (zeroCounted _) (by
        rw [same]
        intro j within
        rw [Nat.zero_add]
        exact below j (Nat.le_of_lt within))
    rw [same] at cfg counted spent
    have under : waited' < rs.cfg.startupTimeoutMs :=
      (countedUnder (by rw [counted, Nat.zero_add])).mpr (below n (Nat.le_refl n))
    rw [openLinkBlocking, if_neg side, openMs, if_neg (Bool.eq_false_iff.mp listen), retried, firstSucc]
    refine ⟨⟨(openLinkOnce rs' rs'.cfg.connectTimeoutMs .ok).1, ?_⟩, ?_⟩
    · rw [List.map_cons, connectRetry, if_pos (by rw [cfg]; exact under)]
      rfl
    · rw [spent, firstSucc, connectMs, if_pos under]
      rfl

theorem worstStart (standby : rs.online = false) (alone : rs.sibling.known = false) {m : Nat}
    (comes : LetsFail rs.cfg n)
    (below : ∀ j < m, Under rs.cfg.startupTimeoutMs rs.cfg.linkPollMs (j + 1)) :
    n * (attemptMs rs.cfg + delayMs rs.cfg) + attemptMs rs.cfg + (m + 1) * rs.cfg.linkPollMs.toNat ≤
      startMs rs (worst rs.cfg (failsUntil n (attemptMs rs.cfg))) (m + 1 + n) := by
  obtain ⟨⟨opened, done⟩, spent⟩ := worstOpens m comes
  obtain ⟨resume, idle⟩ := freshlyJoined standby alone (failsUntil n (attemptMs rs.cfg))
  obtain ⟨ready, unsettled⟩ := openedUnsettled idle done 0
  have cfg := (readyCfg opened false 0).trans ((openedCfg done).trans (joinedCfg rs _))
  have rounds := (silentGoOn (initChannelAndNegotiator opened false 0).1 m rs.cfg.linkPollMs.toNat (zeroCounted _)
    unsettled (by
      rw [cfg]
      intro j within
      rw [Nat.zero_add]
      exact below j within)).2 n
  have negotiation : (m + 1) * rs.cfg.linkPollMs.toNat ≤
      negotiationMs opened false 0 (firstOf (silentRounds rs.cfg.linkPollMs.toNat) (m + 1 + n)) := by
    rw [negotiationMs, if_neg (not_not.mpr ready), show m + 1 + n = n + 1 + m by omega]
    exact rounds
  have whole : startMs rs (worst rs.cfg (failsUntil n (attemptMs rs.cfg))) (m + 1 + n) =
      openMs rs.cfg (firstOf (failsUntil n (attemptMs rs.cfg)) (m + 1 + n)) +
        negotiationMs opened false 0 (firstOf (silentRounds rs.cfg.linkPollMs.toNat) (m + 1 + n)) := by
    unfold startMs
    dsimp only
    rw [resume]
    have opens : (worst rs.cfg (failsUntil n (attemptMs rs.cfg))).opens = failsUntil n (attemptMs rs.cfg) := rfl
    rw [opens, done]
    rfl
  rw [whole, spent]
  exact Nat.add_le_add_left negotiation _

def neverOpens (ms : Nat) (_ : Nat) : Attempt := ⟨.timeout, ms⟩

theorem neverFirst (ms n : Nat) : firstOf (neverOpens ms) n = firstOf (failsUntil n ms) n := by
  refine List.map_congr_left fun k inside => ?_
  rw [failsUntil, if_pos (List.mem_range.mp inside)]
  rfl

theorem worstRetries (listen : rs.cfg.listen = false)
    (below : ∀ j < n, Under rs.cfg.startupTimeoutMs rs.cfg.connectRetryMs j) :
    n * (attemptMs rs.cfg + delayMs rs.cfg) ≤ startMs rs (worst rs.cfg (failsUntil n (attemptMs rs.cfg))) n := by
  obtain ⟨_, _, _, _, _, spent⟩ := connectFails rs n (attemptMs rs.cfg) 0 (zeroCounted _)
    fun j within => by rw [Nat.zero_add]; exact below j within
  rw [Nat.zero_add] at spent
  have opens : openMs rs.cfg (firstOf (failsUntil n (attemptMs rs.cfg)) n) =
      n * (attemptMs rs.cfg + delayMs rs.cfg) := by
    rw [openMs, if_neg (Bool.eq_false_iff.mp listen), spent]
    rfl
  rw [← opens]
  exact Nat.le_add_right _ _

theorem retriesForever (listen : rs.cfg.listen = false)
    (below : ∀ n, Under rs.cfg.startupTimeoutMs rs.cfg.connectRetryMs n) :
    ¬Returns rs (worst rs.cfg (neverOpens (attemptMs rs.cfg))) := by
  rintro ⟨n, returned⟩
  have same := joinedCfg rs (worst rs.cfg (neverOpens (attemptMs rs.cfg)))
  obtain ⟨rs', waited', cfg, counted, retried, _⟩ := connectFails
    (joined rs (worst rs.cfg (neverOpens (attemptMs rs.cfg)))).1 n (attemptMs rs.cfg) 0 (zeroCounted _)
    (by rw [same]; exact fun j _ => below (0 + j))
  rw [same] at cfg counted
  have under : waited' < rs'.cfg.startupTimeoutMs := by
    rw [cfg]
    exact (countedUnder counted).mpr (below (0 + n))
  have side : ¬(joined rs (worst rs.cfg (neverOpens (attemptMs rs.cfg)))).1.cfg.listen = true := by
    rw [same]
    exact Bool.eq_false_iff.mp listen
  have open_ : openLinkBlocking (joined rs (worst rs.cfg (neverOpens (attemptMs rs.cfg)))).1
      ((firstOf (neverOpens (attemptMs rs.cfg)) n).map Attempt.status) = none := by
    rw [openLinkBlocking, if_neg side, neverFirst]
    rw [Nat.zero_add] at retried
    rw [retried]
    exact if_pos under
  have never : siteRoleStart rs ((worst rs.cfg (neverOpens (attemptMs rs.cfg))).upTo n) = none :=
    Option.bind_eq_none_iff.mpr fun opened done => by cases open_.symm.trans done
  rw [never] at returned
  cases returned

theorem negotiatesForever (standby : rs.online = false) (alone : rs.sibling.known = false)
    (below : ∀ m, Under rs.cfg.startupTimeoutMs rs.cfg.linkPollMs (m + 1)) :
    ¬Returns rs (worst rs.cfg (failsUntil 0 (attemptMs rs.cfg))) := by
  rintro ⟨n, returned⟩
  have some_ : 0 < rs.cfg.startupTimeoutMs.toNat := Nat.lt_of_le_of_lt (Nat.zero_le _) (below 0)
  have under : Under rs.cfg.startupTimeoutMs rs.cfg.connectRetryMs 0 := by
    rw [Under, Nat.zero_mul]
    exact some_
  have same := joinedCfg rs (worst rs.cfg (failsUntil 0 (attemptMs rs.cfg)))
  have never : siteRoleStart rs ((worst rs.cfg (failsUntil 0 (attemptMs rs.cfg))).upTo n) = none := by
    cases n with
    | zero =>
      refine Option.bind_eq_none_iff.mpr fun opened done => ?_
      have open_ : openLinkBlocking (joined rs (worst rs.cfg (failsUntil 0 (attemptMs rs.cfg)))).1 [] = none := by
        unfold openLinkBlocking
        split
        · rfl
        · refine if_pos ?_
          rw [same]
          exact (countedUnder (zeroCounted _)).mpr under
      cases open_.symm.trans done
    | succ n =>
      have comes : LetsFail rs.cfg 0 := by
        cases listen : rs.cfg.listen with
        | true => exact Or.inl ⟨listen, rfl⟩
        | false => exact Or.inr ⟨listen, fun j none_ => by rw [Nat.le_zero.mp none_]; exact under⟩
      obtain ⟨⟨opened, done⟩, _⟩ := worstOpens n comes
      obtain ⟨resume, idle⟩ := freshlyJoined standby alone (failsUntil 0 (attemptMs rs.cfg))
      obtain ⟨ready, unsettled⟩ := openedUnsettled idle done 0
      have cfg := (readyCfg opened false 0).trans ((openedCfg done).trans same)
      have rounds := (silentGoOn _ (n + 1) rs.cfg.linkPollMs.toNat (zeroCounted _) unsettled (by
        rw [cfg]
        exact fun j _ => below (0 + j))).1
      rw [startParts]
      refine Option.bind_eq_none_iff.mpr fun answer again => ?_
      obtain rfl := Option.some_inj.mp (done.symm.trans again)
      rw [if_neg (by simp), resume]
      refine (if_neg (not_not.mpr ready)).trans ?_
      exact Option.bind_eq_none_iff.mpr fun settled ran => by cases rounds.symm.trans ran
  rw [never] at returned
  cases returned

end Worst

theorem boundedIff {rs : RteSiteRole} (standby : rs.online = false) (alone : rs.sibling.known = false) :
    Bounded rs ↔ InTime rs.cfg := by
  constructor
  · intro bounded
    have connects : rs.cfg.listen = false → ∃ n, ¬Under rs.cfg.startupTimeoutMs rs.cfg.connectRetryMs n := by
      intro listen
      by_contra all
      have below := not_exists_not.mp all
      exact retriesForever listen below (bounded _ ⟨fun _ => Nat.le_refl _, fun _ => Nat.le_refl _⟩).1
    have settles : ∃ m, ¬Under rs.cfg.startupTimeoutMs rs.cfg.linkPollMs (m + 1) := by
      by_contra all
      have below := not_exists_not.mp all
      exact negotiatesForever standby alone below (bounded _ (worstObeys rs.cfg 0)).1
    refine ⟨connects, settles, fun listen m below => ?_, fun listen n below => ?_, fun listen n m below settling => ?_⟩
    · have spent := worstStart standby alone (Or.inl ⟨listen, rfl⟩) below
      have least := (bounded _ (worstObeys rs.cfg 0)).2 (m + 1 + 0)
      have attempt : attemptMs rs.cfg = rs.cfg.startupTimeoutMs.toNat := by rw [attemptMs, listen]; rfl
      rw [Nat.zero_mul, Nat.zero_add, Nat.succ_mul] at spent
      omega
    · have attempt : attemptMs rs.cfg = rs.cfg.connectTimeoutMs.toNat := by rw [attemptMs, listen]; rfl
      have spent := worstRetries (n := n + 1) listen fun j within => below j (Nat.le_of_lt_succ within)
      have least := (bounded _ (worstObeys rs.cfg (n + 1))).2 (n + 1)
      rw [attempt] at spent least
      rw [Nat.succ_mul] at spent
      omega
    · have attempt : attemptMs rs.cfg = rs.cfg.connectTimeoutMs.toNat := by rw [attemptMs, listen]; rfl
      have spent := worstStart standby alone (Or.inr ⟨listen, below⟩) settling
      have least := (bounded _ (worstObeys rs.cfg n)).2 (m + 1 + n)
      rw [attempt] at spent least
      rw [Nat.succ_mul] at spent
      omega
  · exact fun inTime b obeys => ⟨startReturns inTime, startSpends inTime obeys⟩

/- The start of an accepted configuration is bounded exactly when its times are so related. -/
theorem startBoundedIff {cfg : SiteRoleConfig} {rs : RteSiteRole} (init : siteRoleInit cfg = .ok rs) :
    Bounded rs ↔ InTime cfg := by
  unfold siteRoleInit at init
  split at init
  · cases init
  · cases init
    rw [boundedIff rfl rfl]
    exact ⟨fun inTime => ⟨inTime.connects, inTime.settles, inTime.listens, inTime.retries, inTime.both⟩,
      fun inTime => ⟨inTime.connects, inTime.settles, inTime.listens, inTime.retries, inTime.both⟩⟩

instance (limit step : UInt32) (k : Nat) : Decidable (Under limit step k) :=
  inferInstanceAs (Decidable (k * step.toNat % 2 ^ 32 < limit.toNat))

def connectingSite : SiteRoleConfig := { smallSite true with listen := false, peerHost := some "east", delay := true }

/- The tenth attempt opens the link after 190 ms, and the negotiation takes another 100 ms. -/
theorem lateOpenOverruns : siteRoleInit connectingSite = .ok (initialState connectingSite) ∧
    ¬Bounded (initialState connectingSite) := by
  refine ⟨by simp [siteRoleInit, connectingSite, smallSite, frameOverhead], fun bounded => ?_⟩
  have inTime := (boundedIff rfl rfl).mp bounded
  have enough := inTime.both rfl 9 9 (by decide) (by decide)
  exact absurd enough (by decide)

theorem listeningBounded : Bounded (initialState (smallSite true)) := by
  have init : siteRoleInit (smallSite true) = .ok (initialState (smallSite true)) := by
    simp [siteRoleInit, smallSite, frameOverhead]
  have listens : (smallSite true).listen ≠ false := by decide
  refine (startBoundedIff init).mpr ⟨fun connects => absurd connects listens, ⟨9, by decide⟩, fun _ m below => ?_,
    fun connects => absurd connects listens, fun connects => absurd connects listens⟩
  have few : m ≤ 9 := by
    by_contra many
    exact absurd (below 9 (Nat.lt_of_not_le many)) (by decide)
  have times : (smallSite true).linkPollMs.toNat = 10 ∧
      (smallSite true).startupTimeoutMs.toNat + delayMs (smallSite true) = 100 := by decide
  rw [times.1, times.2]
  omega

end PlatformRte.SiteRole.StartTime
