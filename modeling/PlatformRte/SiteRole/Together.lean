import PlatformRte.SiteRole.FourChannels

/-! No false alarm between siblings. Where the two channels of each site start with the same
role and report the same faults, what each is told of the other lags by a round, and that is
never enough for a fault. -/
namespace PlatformRte.SiteRole.FourChannels
open Machine RteSiteRole TwoSite Settling

section Sound
variable {faults : Party → Bool} {a b c : Pair Role}

theorem nextOwn (r : Role) (f : Facts) : r.nextBeside f r.online = r.next f := by
  cases online : r.online with
  | false => exact nextAlone r f
  | true => simp only [Role.nextBeside, Role.next, online, if_true]

theorem besideOwn (follows : FollowsBeside faults (fun p => (a.get p).online) a b) : Follows faults a b := by
  intro p
  obtain ⟨snapshot, held, next⟩ := follows p
  exact ⟨snapshot, held, next.trans (nextOwn _ _)⟩

theorem soundNext (sound : ∀ p, faults p = false) (first : Follows faults a b) (second : Follows faults a c) : b = c := by
  have same (p : Party) : b.get p = c.get p := by
    obtain ⟨_, _, one⟩ := first p
    obtain ⟨_, _, two⟩ := second p
    rw [one, two]
    simp only [Role.next, sound, Bool.false_eq_true, if_false]
  have one : b.one = c.one := same .one
  have two : b.two = c.two := same .two
  cases b
  cases c
  exact congrArg₂ Pair.mk one two

def Calm (faults : Party → Bool) (a : Pair Role) (p : Party) : Prop :=
  ∀ b, Follows faults a b → (b.get p).online = (a.get p).online

theorem calmAfterChange (sound : ∀ p, faults p = false) (first : Follows faults a b) {p : Party}
    (changed : (b.get p).online ≠ (a.get p).online) : Calm faults b p := by
  intro c second
  cases was : (a.get p).online with
  | true =>
    -- it stepped back, and its marks are new
    have own := soundOnline sound first was
    have standby : (b.get p).online = false := Bool.eq_false_iff.mpr fun stays => changed (stays.trans was.symm)
    have fresh : b.get p = ⟨false, false, 0⟩ := by
      rw [own]
      refine if_pos (by_contra fun keeps => ?_)
      rw [own, if_neg keeps] at standby
      cases standby
    rw [standby]
    cases other : (b.get p.other).online with
    | true => exact soundFollower sound second standby other
    | false =>
      have next := soundStandby sound second standby other
      rw [next, fresh]
      cases p <;> rfl
  | false =>
    -- it took over from a counterpart that stands by
    have online : (b.get p).online = true := Bool.eq_true_of_not_eq_false fun stays => changed (stays.trans was.symm)
    have other : (a.get p.other).online = false := Bool.eq_false_iff.mpr fun there => by
      have follower := soundFollower sound first was there
      rw [online] at follower
      cases follower
    have own := soundStandby sound first was other
    have follower : (b.get p.other).online = false := by
      cases p with
      | one =>
        have east := soundStandby sound first (p := Party.two) other was
        exact congrArg Role.online east
      | two =>
        rw [own] at online
        cases online
    rw [soundOnline sound second online, follower, online]
    rfl

end Sound

section Runs
variable {four : Lanes} {r : Pair Round} {rounds : List (Pair Round)} {f : Party → Bool}

def Together (four : Lanes) : Prop := rolesOf four.one = rolesOf four.two

theorem togetherRoles (together : Together four) (lane : Party) :
    rolesOf (four.get lane.other) = rolesOf (four.get lane) := by
  cases lane with
  | one => exact together.symm
  | two => exact together

theorem togetherOnline (together : Together four) (lane p : Party) :
    (channel four lane.other p).online = (channel four lane p).online := by
  have same := congrArg (fun a => (a.get p).online) (togetherRoles together lane)
  simp only [rolesOf, Pair.getMap] at same
  exact same

structure SoundWatch (f : Party → Bool) (four : Lanes) : Prop where
  joined : Joined four
  together : Together four
  verdict : ∀ lane p, (channel four lane p).siblingVerdict ≠ .fault
  mismatch : ∀ lane p, (channel four lane p).siblingMismatch = 0 ∨
    (channel four lane p).siblingMismatch = 1 ∧ Calm f (rolesOf (four.get lane)) p

theorem togetherFollows (watch : SoundWatch f four) (clean : Untroubled (fun _ => f) four r) (lane : Party) :
    Follows f (rolesOf (four.get lane)) (rolesOf ((roundFour four r).get lane)) := by
  have beside : (fun p => (channel four lane.other p).online) = fun p => ((rolesOf (four.get lane)).get p).online := by
    funext p
    rw [togetherOnline watch.together, rolesOf, Pair.getMap]
    rfl
  have follows := laneFollows watch.joined clean lane
  rw [beside] at follows
  exact besideOwn follows

theorem soundWatched (sound : ∀ p, f p = false) (watch : SoundWatch f four) (clean : Untroubled (fun _ => f) four r) :
    SoundWatch f (roundFour four r) := by
  have follows := togetherFollows watch clean
  have judged (lane p : Party) : (channel (roundFour four r) lane p).siblingVerdict ≠ .fault ∧
      ((channel (roundFour four r) lane p).siblingMismatch = 0 ∨
        (channel (roundFour four r) lane p).siblingMismatch = 1 ∧ Calm f (rolesOf ((roundFour four r).get lane)) p) := by
    have verdict := roundJudged watch.joined clean lane p
    rw [togetherOnline watch.together] at verdict
    by_cases same : (channel (roundFour four r) lane p).online = (channel four lane p).online
    · obtain ⟨mismatch, agree⟩ := verdict.agree same
      exact ⟨by rw [agree]; decide, Or.inl mismatch⟩
    · have changed : ((rolesOf ((roundFour four r).get lane)).get p).online ≠ ((rolesOf (four.get lane)).get p).online := by
        rw [rolesOf, rolesOf, Pair.getMap, Pair.getMap]
        exact same
      have none : (channel four lane p).siblingMismatch = 0 :=
        (watch.mismatch lane p).resolve_right fun counted => changed (counted.2 _ (follows lane))
      obtain ⟨mismatch, pending⟩ := verdict.parted same
      have one : (bumped (channel four lane p)).siblingMismatch = 1 := by
        rw [bumped, none]
        rfl
      rw [one] at mismatch pending
      exact ⟨by rw [pending]; decide, Or.inr ⟨mismatch, calmAfterChange sound (follows lane) changed⟩⟩
  refine ⟨roundJoined watch.joined clean, ?_, fun lane p => (judged lane p).1, fun lane p => (judged lane p).2⟩
  have one : Follows f (rolesOf four.one) (rolesOf (roundFour four r).one) := follows .one
  have two : Follows f (rolesOf four.two) (rolesOf (roundFour four r).two) := follows .two
  rw [← watch.together] at two
  exact soundNext sound one two

structure FaultedWatch (f : Party → Bool) (four : Lanes) : Prop where
  joined : Joined four
  verdict : ∀ lane p, (channel four lane p).siblingVerdict ≠ .fault
  mismatch : ∀ lane p other, (channel four lane p).siblingMismatch.toNat + roundsLeft f (rolesOf (four.get other)) ≤ 2

theorem faultedLaneFalls {q : Party} (faulted : f q = true) (joined : Joined four) (clean : Untroubled (fun _ => f) four r)
    (lane : Party) :
    roundsLeft f (rolesOf ((roundFour four r).get lane)) ≤ roundsLeft f (rolesOf (four.get lane)) - 1 :=
  roundFalls (faultedUnsplit faulted) (faultedFollows faulted (laneFollows joined clean lane))

theorem faultedSettled {q : Party} (faulted : f q = true) (joined : Joined four) (clean : Untroubled (fun _ => f) four r)
    (rest : ∀ lane, roundsLeft f (rolesOf (four.get lane)) = 0) (lane p : Party) :
    (channel (roundFour four r) lane p).online = (channel four lane.other p).online := by
  have falls := faultedLaneFalls faulted joined clean lane
  rw [rest lane] at falls
  have same := settledSame faulted (settledNow (rest lane.other)) (settledNow (Nat.le_zero.mp falls)) p
  rw [rolesOf, rolesOf, Pair.getMap, Pair.getMap] at same
  exact same

theorem faultedWatched {q : Party} (faulted : f q = true) (watch : FaultedWatch f four)
    (clean : Untroubled (fun _ => f) four r) : FaultedWatch f (roundFour four r) := by
  have falls := faultedLaneFalls faulted watch.joined clean
  have judged (lane p : Party) : (channel (roundFour four r) lane p).siblingVerdict ≠ .fault ∧ ∀ other,
      (channel (roundFour four r) lane p).siblingMismatch.toNat +
        roundsLeft f (rolesOf ((roundFour four r).get other)) ≤ 2 := by
    have verdict := roundJudged watch.joined clean lane p
    by_cases same : (channel (roundFour four r) lane p).online = (channel four lane.other p).online
    · obtain ⟨mismatch, agree⟩ := verdict.agree same
      refine ⟨by rw [agree]; decide, fun other => ?_⟩
      have before := watch.mismatch lane p other
      have after := falls other
      have zero : (0 : UInt8).toNat = 0 := rfl
      rw [mismatch, zero]
      omega
    · obtain ⟨moving, left⟩ : ∃ moving, 0 < roundsLeft f (rolesOf (four.get moving)) := by
        by_contra still
        exact same (faultedSettled faulted watch.joined clean
          (fun lane => Nat.le_zero.mp (Nat.le_of_not_lt fun left => still ⟨lane, left⟩)) lane p)
      obtain ⟨mismatch, counted⟩ := verdict.parted same
      have few := watch.mismatch lane p moving
      have next : (bumped (channel four lane p)).siblingMismatch.toNat = (channel four lane p).siblingMismatch.toNat + 1 := by
        rw [bumped, mismatchBumped, if_pos (by omega)]
      have below : (bumped (channel four lane p)).siblingMismatch < siblingMismatchLimit := by
        rw [UInt8.lt_iff_toNat_lt, next]
        change _ < 3
        omega
      rw [if_pos below] at counted
      refine ⟨by rw [counted]; decide, fun other => ?_⟩
      have before := watch.mismatch lane p other
      have after := falls other
      rw [mismatch, next]
      omega
  exact ⟨roundJoined watch.joined clean, fun lane p => (judged lane p).1, fun lane p => (judged lane p).2⟩

theorem faultedLeftFew {q : Party} (faulted : f q = true) (a : Pair Role) : roundsLeft f a ≤ 2 := by
  unfold roundsLeft faultedLeft
  split
  · split <;> decide
  · split <;> (try split) <;> decide
  · split <;> (try split) <;> decide
  · rename_i one two
    cases q with
    | one =>
      rw [one] at faulted
      cases faulted
    | two =>
      rw [two] at faulted
      cases faulted

/- Where the channels of each site start together, before any check, and the two of a site
report the same faults, no check ever faults a sibling, and all of them agree in the end. -/
theorem neverFaulted (joined : Joined four) (together : Together four)
    (unchecked : ∀ lane p, siblingCheckOf (channel four lane p) = (0, .unknown))
    (clean : Always roundFour (Untroubled fun _ => f) four rounds) (lane p : Party) :
    let ended := channel (run roundFour four rounds) lane p
    ended.siblingVerdict ≠ .fault ∧ (17 ≤ rounds.length → ended.siblingVerdict = .agree) := by
  have unknown (lane p : Party) : (channel four lane p).siblingVerdict ≠ .fault := by
    have verdict : (channel four lane p).siblingVerdict = .unknown := congrArg Prod.snd (unchecked lane p)
    rw [verdict]
    decide
  have none (lane p : Party) : (channel four lane p).siblingMismatch = 0 := congrArg Prod.fst (unchecked lane p)
  have never : (channel (run roundFour four rounds) lane p).siblingVerdict ≠ .fault := by
    by_cases some_ : ∃ q, f q = true
    · obtain ⟨q, faulted⟩ := some_
      have start : FaultedWatch f four := ⟨joined, unknown, fun lane p other => by
        have few := faultedLeftFew faulted (rolesOf (four.get other))
        have zero : (0 : UInt8).toNat = 0 := rfl
        rw [none, zero]
        omega⟩
      exact (invariantRun start (fun _ _ watch admitted => faultedWatched faulted watch admitted) clean).verdict lane p
    · have sound (q : Party) : f q = false := Bool.eq_false_iff.mpr fun faulted => some_ ⟨q, faulted⟩
      have start : SoundWatch f four := ⟨joined, together, unknown, fun lane p => Or.inl (none lane p)⟩
      exact (invariantRun start (fun _ _ watch admitted => soundWatched sound watch admitted) clean).verdict lane p
  refine ⟨never, fun enough => ?_⟩
  have verdict := (judgedAtLast joined clean enough).verdicts lane p
  rw [verdict] at never ⊢
  split
  · rfl
  · rename_i apart
    exact absurd (if_neg apart) never

theorem startedTogether :
    let ended := channel (run roundFour (lanesOf fun _ _ => false) quietRounds) .one .one
    ended.siblingVerdict ≠ .fault ∧ ended.siblingVerdict = .agree := by
  have unchecked (lane p : Party) : siblingCheckOf (channel (lanesOf fun _ _ => false) lane p) = (0, .unknown) := by
    cases lane <;> cases p <;> rfl
  have together : Together (lanesOf fun _ _ => false) := rfl
  obtain ⟨never, last⟩ := neverFaulted (lanesJoined _) together unchecked (quietUntroubled _) .one .one
  exact ⟨never, last (by decide)⟩

end Runs
end PlatformRte.SiteRole.FourChannels
