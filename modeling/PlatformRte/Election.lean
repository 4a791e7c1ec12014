import PlatformRte.Config.Limits
import PlatformRte.Dual.Negotiator
import PlatformRte.Lib.Least
import Mathlib.Data.Prod.Lex

/-! The election among any number of candidates. Each round is decided from the snapshot
of candidates it is given; the oldest startup timestamp wins, the ids decide a tie. -/
namespace PlatformRte.Election
open PlatformRte.Dual Config

structure ElectionCandidate where
  id : UInt32
  startupTimestampMs : UInt64
  degraded : Bool
  deriving DecidableEq, Repr

structure ElectionConfig where
  ownId : UInt32
  deriving DecidableEq, Repr

structure RteElection where
  ownId : UInt32
  ownLastState : DualState
  winnerId : UInt32
  haveWinner : Bool
  deriving DecidableEq, Repr

def electionInit (config : ElectionConfig) : RteElection := ⟨config.ownId, .idle, 0, false⟩

/- The candidates of a call: NULL with any count, or as many as there are. -/
inductive Snapshot where
  | null (count : Nat)
  | candidates (list : List ElectionCandidate)

def Snapshot.count : Snapshot → Nat
  | .null count => count
  | .candidates list => list.length

def Snapshot.isNull : Snapshot → Bool
  | .null _ => true
  | .candidates _ => false

def Snapshot.list : Snapshot → List ElectionCandidate
  | .null _ => []
  | .candidates list => list

def findOwnIndex (candidates : List ElectionCandidate) (ownId : UInt32) : Option Nat :=
  candidates.findIdx? fun candidate => candidate.id == ownId

def olderCandidate (a b : ElectionCandidate) : Bool :=
  decide (a.startupTimestampMs < b.startupTimestampMs) ||
    (decide (a.startupTimestampMs = b.startupTimestampMs) && decide (a.id < b.id))

def findWinnerIndex (candidates : List ElectionCandidate) : Nat := Least.scan olderCandidate candidates

def electionExecute (election : RteElection) (snapshot : Snapshot) : RteElection × RteStatus :=
  if maxReplicas < snapshot.count then (election, .invalidParam)
  else if snapshot.isNull && snapshot.count != 0 then (election, .invalidParam)
  else
    match findOwnIndex snapshot.list election.ownId with
    | none => ({ election with ownLastState := .unknown }, .ok)
    | some ownIndex =>
        let winnerIndex := findWinnerIndex snapshot.list
        match snapshot.list[winnerIndex]? with
        -- there is a candidate, so there is a winner
        | none => (election, .ok)
        | some winner =>
            ({ election with
                winnerId := winner.id
                haveWinner := true
                ownLastState :=
                  if winnerIndex = ownIndex then .online
                  else if winner.degraded then .coldStandby
                  else .hotStandby }, .ok)

def electionGetOwnState : Option RteElection → DualState
  | none => .idle
  | some election => election.ownLastState

def electionGetWinnerId (election : RteElection) : Except RteStatus UInt32 :=
  if election.haveWinner then .ok election.winnerId else .error .notInitialized

def seniority (candidate : ElectionCandidate) : ℕ ×ₗ ℕ :=
  toLex (candidate.startupTimestampMs.toNat, candidate.id.toNat)

theorem olderIff (a b : ElectionCandidate) : olderCandidate a b = true ↔ seniority a < seniority b := by
  simp only [olderCandidate, seniority, Prod.Lex.lt_iff, Bool.or_eq_true, Bool.and_eq_true, decide_eq_true_eq,
    UInt64.lt_iff_toNat_lt, UInt32.lt_iff_toNat_lt, ← UInt64.toNat_inj]
  rfl

theorem decideOnlineIff (a b : ElectionCandidate) :
    negotiatorDecideOnline a.id a.startupTimestampMs b.id b.startupTimestampMs = true ↔ seniority a < seniority b := by
  rw [← olderIff, negotiatorDecideOnline, olderCandidate]
  by_cases same : a.startupTimestampMs = b.startupTimestampMs
  · simp [same]
  · simp [same]

theorem seniorityId {a b : ElectionCandidate} (same : seniority a = seniority b) : a.id = b.id := by
  have ids := congrArg (fun key => (ofLex key).2) same
  exact UInt32.toNat_inj.mp ids

theorem uniqueId {candidates : List ElectionCandidate} (unique : (candidates.map ElectionCandidate.id).Nodup)
    {a b : ElectionCandidate} (first : a ∈ candidates) (second : b ∈ candidates) (same : a.id = b.id) : a = b :=
  List.inj_on_of_nodup_map unique first second same

structure Senior (candidates : List ElectionCandidate) (winner : ElectionCandidate) : Prop where
  member : winner ∈ candidates
  ahead : ∀ c ∈ candidates, c ≠ winner → seniority winner < seniority c

theorem Senior.alone {candidates : List ElectionCandidate} {a b : ElectionCandidate} (first : Senior candidates a)
    (second : Senior candidates b) : a = b := by
  by_contra other
  exact lt_asymm (first.ahead b second.member (Ne.symm other)) (second.ahead a first.member other)

theorem Senior.perm {candidates order : List ElectionCandidate} {winner : ElectionCandidate}
    (senior : Senior candidates winner) (perm : order.Perm candidates) : Senior order winner :=
  ⟨perm.mem_iff.mpr senior.member, fun c member => senior.ahead c (perm.mem_iff.mp member)⟩

theorem findWinnerSenior {candidates : List ElectionCandidate} (nonempty : candidates ≠ [])
    (unique : (candidates.map ElectionCandidate.id).Nodup) :
    ∃ winner, candidates[findWinnerIndex candidates]? = some winner ∧ Senior candidates winner := by
  obtain ⟨winner, member, held, least⟩ := Least.scanEntry olderIff nonempty
  refine ⟨winner, held, member, fun c listed other => lt_of_le_of_ne (least c listed) fun same => ?_⟩
  exact other (uniqueId unique listed member (seniorityId same).symm)

theorem sameIndexIff {candidates : List ElectionCandidate} (unique : (candidates.map ElectionCandidate.id).Nodup)
    {i j : Nat} {a : ElectionCandidate} {ownId : UInt32} (first : candidates[i]? = some a)
    (second : findOwnIndex candidates ownId = some j) : i = j ↔ ownId = a.id := by
  obtain ⟨within, own, _⟩ := List.findIdx?_eq_some_iff_getElem.mp second
  obtain ⟨inside, rfl⟩ := List.getElem?_eq_some_iff.mp first
  have found : candidates[j].id = ownId := by simpa using own
  constructor
  · rintro rfl
    exact found.symm
  · intro same
    have left : i < (candidates.map ElectionCandidate.id).length := by simpa using inside
    have right : j < (candidates.map ElectionCandidate.id).length := by simpa using within
    have ids : (candidates.map ElectionCandidate.id)[i] = (candidates.map ElectionCandidate.id)[j] := by
      simp [found, same]
    exact (List.Nodup.getElem_inj_iff unique).mp ids

theorem executeElects {order : List ElectionCandidate} (few : order.length ≤ maxReplicas)
    (unique : (order.map ElectionCandidate.id).Nodup) {winner : ElectionCandidate} (senior : Senior order winner)
    (election : RteElection) (listed : election.ownId ∈ order.map ElectionCandidate.id) :
    electionExecute election (.candidates order) =
      (⟨election.ownId, if election.ownId = winner.id then .online else standbyFor winner.degraded, winner.id, true⟩,
        .ok) := by
  obtain ⟨own, member, same⟩ := List.mem_map.mp listed
  obtain ⟨elected, held, first⟩ := findWinnerSenior (List.ne_nil_of_mem member) unique
  obtain rfl := first.alone senior
  cases found : findOwnIndex order election.ownId with
  | none =>
    have absent := List.findIdx?_eq_none_iff.mp found own member
    simp [same] at absent
  | some ownIndex =>
    have here := sameIndexIff unique held found
    simp only [electionExecute, Snapshot.count, Snapshot.isNull, Snapshot.list, if_neg (Nat.not_lt.mpr few), found,
      held, here, standbyFor, Bool.false_and, Bool.false_eq_true, if_false]

structure Elected (candidates : List ElectionCandidate) (winner : ElectionCandidate) : Prop where
  senior : Senior candidates winner
  recorded : ∀ (election : RteElection) order, order.Perm candidates →
    election.ownId ∈ candidates.map ElectionCandidate.id →
      (electionExecute election (.candidates order)).2 = .ok ∧
        electionGetWinnerId (electionExecute election (.candidates order)).1 = .ok winner.id
  states : ∀ (elections : ElectionCandidate → RteElection) (orders : ElectionCandidate → List ElectionCandidate),
    (∀ c ∈ candidates, (elections c).ownId = c.id ∧ (orders c).Perm candidates) →
      (∃! c, c ∈ candidates ∧ (electionExecute (elections c) (.candidates (orders c))).1.ownLastState = .online) ∧
        ∀ c ∈ candidates, (electionExecute (elections c) (.candidates (orders c))).1.ownLastState ≠ .online →
          (electionExecute (elections c) (.candidates (orders c))).1.ownLastState =
            if winner.degraded then .coldStandby else .hotStandby
  negotiated : ∀ a b, candidates.Perm [a, b] →
    (winner = a ↔ negotiatorDecideOnline a.id a.startupTimestampMs b.id b.startupTimestampMs = true)

theorem electionAgrees {candidates : List ElectionCandidate} (nonempty : candidates ≠ [])
    (few : candidates.length ≤ maxReplicas) (unique : (candidates.map ElectionCandidate.id).Nodup) :
    ∃ winner, Elected candidates winner := by
  obtain ⟨winner, _, senior⟩ := findWinnerSenior nonempty unique
  have executes (election : RteElection) (order : List ElectionCandidate) (perm : order.Perm candidates)
      (listed : election.ownId ∈ candidates.map ElectionCandidate.id) :=
    executeElects (perm.length_eq.trans_le few) ((perm.map _).nodup_iff.mpr unique) (senior.perm perm) election
      ((perm.map _).mem_iff.mpr listed)
  refine ⟨winner, senior, fun election order perm listed => ?_, fun elections orders each => ?_, fun a b perm => ?_⟩
  · rw [executes election order perm listed]
    exact ⟨rfl, rfl⟩
  · have state (c : ElectionCandidate) (member : c ∈ candidates) :
        (electionExecute (elections c) (.candidates (orders c))).1.ownLastState =
          if c.id = winner.id then .online else standbyFor winner.degraded := by
      obtain ⟨own, perm⟩ := each c member
      rw [executes (elections c) (orders c) perm (own ▸ List.mem_map_of_mem member), own]
    have standby : standbyFor winner.degraded ≠ .online := by
      cases winner.degraded <;> decide
    refine ⟨⟨winner, ⟨senior.member, ?_⟩, ?_⟩, ?_⟩
    · rw [state winner senior.member, if_pos rfl]
    · rintro c ⟨member, online⟩
      rw [state c member] at online
      split at online
      · exact uniqueId unique member senior.member ‹_›
      · exact absurd online standby
    · intro c member other
      rw [state c member] at other ⊢
      split
      · rw [if_pos ‹_›] at other
        exact absurd rfl other
      · rfl
  · rw [decideOnlineIff]
    have pair := senior.perm perm.symm
    have different : a ≠ b := by
      have ids := (perm.map ElectionCandidate.id).nodup_iff.mp unique
      rintro rfl
      simp at ids
    constructor
    · rintro rfl
      exact pair.ahead b (by simp) different.symm
    · intro ahead
      rcases List.mem_pair.mp pair.member with rfl | rfl
      · rfl
      · exact absurd ahead (lt_asymm (pair.ahead a (by simp) different))

theorem smallerIdElected : ∃ winner, Elected [⟨2, 100, false⟩, ⟨1, 100, true⟩] winner :=
  electionAgrees (by simp) (by decide) (by decide)

end PlatformRte.Election
