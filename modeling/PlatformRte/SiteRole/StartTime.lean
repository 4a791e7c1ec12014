import PlatformRte.SiteRole.Link

/-! How long a start blocks. The two loops of a start have a counter each, which goes up by a
configured step and is not the time that has passed. -/
namespace PlatformRte.SiteRole.StartTime
open PlatformRte.Dual

structure Attempt where
  status : RteStatus
  ms : Nat

structure Round where
  io : NegotiatorIo
  ms : Nat

/- How the link and the counterpart behave during a start, without an end. -/
structure Behaviour where
  nowMs : UInt64
  siblingFrame : Option SiteRoleSibling
  initNowMs : UInt64
  opens : Nat → Attempt
  rounds : Nat → Round

def firstOf {α : Type} (answers : Nat → α) (n : Nat) : List α := (List.range n).map answers

def Behaviour.upTo (b : Behaviour) (n : Nat) : StartIo :=
  ⟨b.nowMs, b.siblingFrame, (firstOf b.opens n).map Attempt.status, b.initNowMs, (firstOf b.rounds n).map Round.io⟩

def attemptMs (cfg : SiteRoleConfig) : Nat :=
  (if cfg.listen then cfg.startupTimeoutMs else cfg.connectTimeoutMs).toNat

-- Without a delay callback the start retries without a pause.
def delayMs (cfg : SiteRoleConfig) : Nat := if cfg.delay then cfg.connectRetryMs.toNat else 0

structure Obeys (cfg : SiteRoleConfig) (b : Behaviour) : Prop where
  opens : ∀ k, (b.opens k).ms ≤ attemptMs cfg
  rounds : ∀ k, (b.rounds k).ms ≤ cfg.linkPollMs.toNat

def connectMs (cfg : SiteRoleConfig) (waitedMs : UInt32) : List Attempt → Nat
  | [] => 0
  | attempt :: rest =>
      if waitedMs < cfg.startupTimeoutMs then
        if attempt.status = .ok then attempt.ms
        else attempt.ms + delayMs cfg + connectMs cfg (waitedMs + cfg.connectRetryMs) rest
      else 0

def openMs (cfg : SiteRoleConfig) (attempts : List Attempt) : Nat :=
  if cfg.listen then (attempts.head?.map Attempt.ms).getD 0 else connectMs cfg 0 attempts

def roundsMs (rs : RteSiteRole) (waitedMs : UInt32) : List Round → Nat
  | [] => 0
  | round :: rest =>
      let next := negotiate rs round.io
      round.ms +
        if next.negotiator.ownState = .idle ∧ waitedMs + rs.cfg.linkPollMs < rs.cfg.startupTimeoutMs then
          roundsMs next (waitedMs + rs.cfg.linkPollMs) rest
        else 0

def negotiationMs (rs : RteSiteRole) (resumeStandby : Bool) (nowMs : UInt64) (rounds : List Round) : Nat :=
  let ready := initChannelAndNegotiator rs resumeStandby nowMs
  if ready.2 ≠ .ok then 0 else roundsMs ready.1 0 rounds

def joined (rs : RteSiteRole) (b : Behaviour) : RteSiteRole × Bool :=
  startupRoleFromSibling (pollSiblingSource (startReset rs b.nowMs) 0 b.siblingFrame)

def startMs (rs : RteSiteRole) (b : Behaviour) (n : Nat) : Nat :=
  let joining := joined rs b
  openMs rs.cfg (firstOf b.opens n) +
    match openLinkBlocking joining.1 ((firstOf b.opens n).map Attempt.status) with
    | some (opened, .ok) => negotiationMs opened joining.2 b.initNowMs (firstOf b.rounds n)
    | _ => 0

def Returns (rs : RteSiteRole) (b : Behaviour) : Prop := ∃ n, (siteRoleStart rs (b.upTo n)).isSome = true

/- Against every behaviour the start returns, and blocks one attempt, one delay and one round longer
than its timeout at most. -/
def Bounded (rs : RteSiteRole) : Prop :=
  ∀ b, Obeys rs.cfg b → Returns rs b ∧
    ∀ n, startMs rs b n ≤ rs.cfg.startupTimeoutMs.toNat + attemptMs rs.cfg + delayMs rs.cfg + rs.cfg.linkPollMs.toNat

def Under (limit step : UInt32) (k : Nat) : Prop := k * step.toNat % 2 ^ 32 < limit.toNat

section Counter
variable {limit step waited : UInt32} {k : Nat}

theorem countedUnder (counted : waited.toNat = k * step.toNat % 2 ^ 32) :
    waited < limit ↔ Under limit step k := by
  rw [UInt32.lt_iff_toNat_lt, counted, Under]

theorem countedNext (counted : waited.toNat = k * step.toNat % 2 ^ 32) :
    (waited + step).toNat = (k + 1) * step.toNat % 2 ^ 32 := by
  rw [UInt32.toNat_add, counted, Nat.mod_add_mod, Nat.succ_mul]

end Counter

theorem firstSucc {α : Type} (answers : Nat → α) (n : Nat) :
    firstOf answers (n + 1) = answers 0 :: firstOf (fun k => answers (k + 1)) n := by
  simp only [firstOf, List.range_succ_eq_map, List.map_cons, List.map_map]
  rfl

theorem firstLength {α : Type} (answers : Nat → α) (n : Nat) : (firstOf answers n).length = n := by
  rw [firstOf, List.length_map, List.length_range]

theorem firstMem {α : Type} {answers : Nat → α} {n : Nat} {answer : α} (inside : answer ∈ firstOf answers n) :
    ∃ k, answer = answers k := by
  obtain ⟨k, _, same⟩ := List.mem_map.mp inside
  exact ⟨k, same.symm⟩

section Connect
variable {rs : RteSiteRole} {waited : UInt32} {k : Nat} {attempts : List Attempt}

theorem retryCfg (rs : RteSiteRole) (status : RteStatus) :
    (connectDelay (openLinkOnce rs rs.cfg.connectTimeoutMs status).1).cfg = rs.cfg := by
  unfold connectDelay
  split <;> rfl

theorem connectGoesOn (counted : waited.toNat = k * rs.cfg.connectRetryMs.toNat % 2 ^ 32)
    (open_ : connectRetry rs waited (attempts.map Attempt.status) = none) :
    ∀ j ≤ attempts.length, Under rs.cfg.startupTimeoutMs rs.cfg.connectRetryMs (k + j) := by
  induction attempts generalizing rs waited k with
  | nil =>
    rintro j none_
    obtain rfl := Nat.le_zero.mp none_
    rw [Nat.add_zero]
    by_contra beyond
    rw [← countedUnder counted] at beyond
    simp only [List.map_nil, connectRetry, if_neg beyond] at open_
    cases open_
  | cons attempt rest ih =>
    by_cases under : waited < rs.cfg.startupTimeoutMs
    · simp only [List.map_cons, connectRetry, if_pos under] at open_
      by_cases opened : attempt.status = .ok
      · rw [if_pos opened] at open_
        cases open_
      · rw [if_neg opened] at open_
        have later := ih (by rw [retryCfg]; exact countedNext counted) open_
        rw [retryCfg] at later
        rintro (_ | j) within
        · exact (countedUnder counted).mp under
        · rw [show k + (j + 1) = k + 1 + j by omega]
          exact later j (Nat.le_of_succ_le_succ within)
    · simp only [List.map_cons, connectRetry, if_neg under] at open_
      cases open_

theorem connectSpends (counted : waited.toNat = k * rs.cfg.connectRetryMs.toNat % 2 ^ 32)
    (obeys : ∀ attempt ∈ attempts, attempt.ms ≤ rs.cfg.connectTimeoutMs.toNat) :
    (connectMs rs.cfg waited attempts = 0 ∧
        ∀ opened, connectRetry rs waited (attempts.map Attempt.status) ≠ some (opened, .ok)) ∨
      ∃ n, (∀ j ≤ n, Under rs.cfg.startupTimeoutMs rs.cfg.connectRetryMs (k + j)) ∧
        connectMs rs.cfg waited attempts ≤
          n * (rs.cfg.connectTimeoutMs.toNat + delayMs rs.cfg) + rs.cfg.connectTimeoutMs.toNat + delayMs rs.cfg ∧
        ∀ opened, connectRetry rs waited (attempts.map Attempt.status) = some (opened, .ok) →
          connectMs rs.cfg waited attempts ≤
            n * (rs.cfg.connectTimeoutMs.toNat + delayMs rs.cfg) + rs.cfg.connectTimeoutMs.toNat := by
  induction attempts generalizing rs waited k with
  | nil =>
    refine Or.inl ⟨rfl, fun opened done => ?_⟩
    simp only [List.map_nil, connectRetry] at done
    split at done <;> cases done
  | cons attempt rest ih =>
    have first := obeys attempt List.mem_cons_self
    by_cases under : waited < rs.cfg.startupTimeoutMs
    · refine Or.inr ?_
      have here : ∀ j ≤ 0, Under rs.cfg.startupTimeoutMs rs.cfg.connectRetryMs (k + j) := by
        rintro j none_
        obtain rfl := Nat.le_zero.mp none_
        exact (countedUnder counted).mp under
      simp only [List.map_cons, connectRetry, connectMs, if_pos under]
      by_cases opened : attempt.status = .ok
      · simp only [if_pos opened]
        exact ⟨0, here, by omega, fun _ _ => by omega⟩
      · simp only [if_neg opened]
        have cfg := retryCfg rs attempt.status
        have next : (waited + rs.cfg.connectRetryMs).toNat = (k + 1) *
            (connectDelay (openLinkOnce rs rs.cfg.connectTimeoutMs attempt.status).1).cfg.connectRetryMs.toNat %
              2 ^ 32 := by
          rw [cfg]
          exact countedNext counted
        have later := ih next (by rw [cfg]; exact fun one inside => obeys one (List.mem_cons_of_mem _ inside))
        rw [cfg] at later
        rcases later with ⟨nothing, never⟩ | ⟨n, below, spent, success⟩
        · exact ⟨0, here, by omega, fun s done => absurd done (never s)⟩
        · refine ⟨n + 1, ?_, ?_, fun s done => ?_⟩
          · rintro (_ | j) within
            · exact here 0 (Nat.le_refl 0)
            · rw [show k + (j + 1) = k + 1 + j by omega]
              exact below j (Nat.le_of_succ_le_succ within)
          · rw [Nat.succ_mul]
            omega
          · have last := success s done
            rw [Nat.succ_mul]
            omega
    · refine Or.inl ⟨by simp only [connectMs, if_neg under], fun opened done => ?_⟩
      simp only [List.map_cons, connectRetry, if_neg under] at done
      cases done

end Connect

section Rounds
variable {rs : RteSiteRole} {waited : UInt32} {k : Nat} {rounds : List Round}

theorem roundsGoOn (counted : waited.toNat = k * rs.cfg.linkPollMs.toNat % 2 ^ 32)
    (open_ : negotiateRounds rs waited (rounds.map Round.io) = none) :
    ∀ j < rounds.length, Under rs.cfg.startupTimeoutMs rs.cfg.linkPollMs (k + (j + 1)) := by
  induction rounds generalizing rs waited k with
  | nil => exact fun j within => absurd within (Nat.not_lt_zero j)
  | cons round rest ih =>
    simp only [List.map_cons, negotiateRounds] at open_
    split at open_
    · rename_i more
      have next : (waited + rs.cfg.linkPollMs).toNat =
          (k + 1) * (negotiate rs round.io).cfg.linkPollMs.toNat % 2 ^ 32 := countedNext counted
      have later := ih next open_
      rintro (_ | j) within
      · exact (countedUnder next).mp more.2
      · rw [show k + (j + 1 + 1) = k + 1 + (j + 1) by omega]
        exact later j (Nat.lt_of_succ_lt_succ within)
    · cases open_

theorem roundsSpend (counted : waited.toNat = k * rs.cfg.linkPollMs.toNat % 2 ^ 32)
    (obeys : ∀ round ∈ rounds, round.ms ≤ rs.cfg.linkPollMs.toNat) :
    ∃ m, (∀ j < m, Under rs.cfg.startupTimeoutMs rs.cfg.linkPollMs (k + (j + 1))) ∧
      roundsMs rs waited rounds ≤ m * rs.cfg.linkPollMs.toNat + rs.cfg.linkPollMs.toNat := by
  induction rounds generalizing rs waited k with
  | nil => exact ⟨0, fun j within => absurd within (Nat.not_lt_zero j), Nat.zero_le _⟩
  | cons round rest ih =>
    have first := obeys round List.mem_cons_self
    simp only [roundsMs]
    split
    · rename_i more
      have next : (waited + rs.cfg.linkPollMs).toNat =
          (k + 1) * (negotiate rs round.io).cfg.linkPollMs.toNat % 2 ^ 32 := countedNext counted
      obtain ⟨m, below, spent⟩ := ih next fun one inside => obeys one (List.mem_cons_of_mem _ inside)
      refine ⟨m + 1, ?_, ?_⟩
      · rintro (_ | j) within
        · exact (countedUnder next).mp more.2
        · rw [show k + (j + 1 + 1) = k + 1 + (j + 1) by omega]
          exact below j (Nat.lt_of_succ_lt_succ within)
      · rw [Nat.succ_mul]
        have same : (negotiate rs round.io).cfg = rs.cfg := rfl
        rw [same] at spent
        omega
    · exact ⟨0, fun j within => absurd within (Nat.not_lt_zero j), by omega⟩

end Rounds

end PlatformRte.SiteRole.StartTime
