import PlatformRte.Voter.Plurality

/-! What a quorum means under a compare callback of the application's own. A group is
built around its first entry, so its members need not match one another. -/
namespace PlatformRte.Voter
open FirstMatch

variable {size : Nat}

def MutualAgreement (voter : RteVoter) (values : List (Buffer size)) (out : VoterOutcome size) : Prop :=
  out.result = some .agreed → ∃ agreeing : List (Buffer size), agreeing.Sublist values ∧
    voterRequiredQuorum voter.config ≤ agreeing.length ∧
    agreeing.Pairwise (fun a b => voterDataEqual voter.config a b = true) ∧ ∃ v ∈ agreeing, out.data = some v

def liveChannelCount (voter : RteVoter) : Nat :=
  voter.channels.countP fun c => c.health.isHealthy && c.initialized

section Verdict
variable {voter : RteVoter} {values : List (Buffer size)} {out : VoterOutcome size}

theorem agreedGroup (positive : 1 ≤ voterRequiredQuorum voter.config) (verdict : Verdict voter values out)
    (agreed : out.result = some .agreed) : ∃ first rest,
      ofClass (classes (voterDataEqual voter.config) values)
        (largest (classes (voterDataEqual voter.config) values).sizes).group = first :: rest ∧
      voterRequiredQuorum voter.config ≤ (first :: rest).length ∧ out.data = some first := by
  cases verdict with
  | disagreed _ _ _ result => simp [result] at agreed
  | failed _ kind _ result => rcases kind with rfl | rfl <;> simp [result] at agreed
  | agreed quorum _ _ data =>
    have length := (largestClass (soundClasses (voterDataEqual voter.config) values)).resolve_right (by omega)
    rw [← length] at quorum
    rw [firstOfClass] at data
    cases own : ofClass (classes (voterDataEqual voter.config) values)
        (largest (classes (voterDataEqual voter.config) values).sizes).group with
    | nil =>
      rw [own, List.length_nil] at quorum
      omega
    | cons first rest =>
      rw [own] at quorum data
      exact ⟨first, rest, rfl, quorum, data⟩

theorem pairAgrees
    (symmetric : ∀ a b : Buffer size, voterDataEqual voter.config a b = true → voterDataEqual voter.config b a = true)
    (positive : 1 ≤ voterRequiredQuorum voter.config) (small : voterRequiredQuorum voter.config ≤ 2)
    (verdict : Verdict voter values out) : MutualAgreement voter values out := by
  intro agreed
  obtain ⟨first, rest, own, quorum, data⟩ := agreedGroup positive verdict agreed
  have sound := soundClasses (voterDataEqual voter.config) values
  rcases Nat.lt_or_ge (voterRequiredQuorum voter.config) 2 with one | two
  · have part := ofClassSublist sound (largest (classes (voterDataEqual voter.config) values).sizes).group
    rw [own] at part
    exact ⟨[first], (by simp : [first].Sublist (first :: rest)).trans part, Nat.le_of_lt_succ one,
      List.pairwise_singleton _ _, first, List.mem_singleton_self first, data⟩
  · obtain ⟨opener, second, opened, part, matched⟩ := pairOfClass sound (by rw [own]; exact two.trans quorum :
      2 ≤ (ofClass (classes (voterDataEqual voter.config) values)
        (largest (classes (voterDataEqual voter.config) values).sizes).group).length)
    rw [firstOfClass, own] at opened
    cases opened
    refine ⟨[first, second], part, small, ?_, first, List.mem_cons_self, data⟩
    simpa using symmetric second first matched

theorem groupAgrees (equivalence : EquivalenceOn (voterDataEqual voter.config) values)
    (positive : 1 ≤ voterRequiredQuorum voter.config) (verdict : Verdict voter values out) :
    MutualAgreement voter values out := by
  intro agreed
  obtain ⟨first, rest, own, quorum, data⟩ := agreedGroup positive verdict agreed
  have sound := soundClasses (voterDataEqual voter.config) values
  have matched := ofClassMatch equivalence (largest (classes (voterDataEqual voter.config) values).sizes).group
  have part := ofClassSublist sound (largest (classes (voterDataEqual voter.config) values).sizes).group
  rw [own] at matched part
  exact ⟨first :: rest, part, quorum, List.pairwise_of_forall_mem_list matched, first, List.mem_cons_self, data⟩

end Verdict

def rankedAnswers (value : Nat → Option (Buffer size)) (filler : Buffer size) :
    Nat → List RteChannel → List (ChannelAnswer size)
  | _, [] => []
  | rank, c :: rest =>
    let answer := match value rank with
      | some b => ⟨.ok, b⟩
      | none => ⟨.timeout, filler⟩
    answer :: rankedAnswers value filler (if c.health.isHealthy && c.initialized then rank + 1 else rank) rest

theorem rankedResponses (value : Nat → Option (Buffer size)) (filler : Buffer size) (rank : Nat)
    (channels : List RteChannel) :
    (channels.zip (rankedAnswers value filler rank channels)).filterMap returned =
      (List.range' rank (channels.countP fun c => c.health.isHealthy && c.initialized)).filterMap value := by
  induction channels generalizing rank with
  | nil => rfl
  | cons c rest ih =>
    simp only [rankedAnswers, List.zip_cons_cons, List.countP_cons]
    cases live : (c.health.isHealthy && c.initialized) with
    | true =>
      have up : c.health.isHealthy = true ∧ c.initialized = true := by simpa using live
      rw [if_pos rfl, if_pos rfl, List.range'_succ]
      cases found : value rank with
      | some b =>
        have gives : returned (c, (⟨.ok, b⟩ : ChannelAnswer size)) = some b := if_pos ⟨up.1, up.2, rfl⟩
        rw [List.filterMap_cons_some gives, List.filterMap_cons_some found, ih]
      | none =>
        rw [List.filterMap_cons_none (by simp [returned]), List.filterMap_cons_none found, ih]
    | false =>
      have down : ¬(c.health.isHealthy = true ∧ c.initialized = true) := by simpa using live
      have silent : ∀ answer : ChannelAnswer size, returned (c, answer) = none := by
        intro answer
        simp only [returned]
        exact if_neg fun all => down ⟨all.1, all.2.1⟩
      rw [List.filterMap_cons_none (silent _), ih]
      simp

theorem rankedAnswersLength (value : Nat → Option (Buffer size)) (filler : Buffer size) (rank : Nat)
    (channels : List RteChannel) : (rankedAnswers value filler rank channels).length = channels.length := by
  induction channels generalizing rank with
  | nil => rfl
  | cons c rest ih => simp [rankedAnswers, ih]

def chainAnswers (voter : RteVoter) (a b c : Buffer size) (i : Nat) : ChannelAnswer size :=
  let value (rank : Nat) : Option (Buffer size) :=
    if rank < voterRequiredQuorum voter.config then some ([b, a, c].getD rank b) else none
  (rankedAnswers value b 0 voter.channels).getD i ⟨.timeout, b⟩

theorem chainResponses {voter : RteVoter} (a b c : Buffer size) {r : Nat}
    (quorum : voterRequiredQuorum voter.config = 3 + r)
    (live : voterRequiredQuorum voter.config ≤ liveChannelCount voter) :
    responses voter (chainAnswers voter a b c) = [b, a, c] ++ List.replicate r b := by
  have slots : voterSlots voter (chainAnswers voter a b c) = voter.channels.zip
      (rankedAnswers (fun rank => if rank < voterRequiredQuorum voter.config then some ([b, a, c].getD rank b)
        else none) b 0 voter.channels) := by
    refine List.ext_getElem (by simp [voterSlots, rankedAnswersLength]) fun i bound _ => ?_
    have inside : i < voter.channels.length := by simpa [voterSlots] using bound
    simp [voterSlots, chainAnswers, rankedAnswersLength, inside]
  obtain ⟨more, split⟩ := Nat.exists_eq_add_of_le live
  rw [responses, slots, rankedResponses]
  have all : (voter.channels.countP fun c => c.health.isHealthy && c.initialized) = 3 + r + more := by
    rw [← quorum]
    exact split
  rw [all, ← List.range_eq_range', List.range_add, List.filterMap_append, quorum]
  have tail : ((List.range more).map (3 + r + ·)).filterMap (fun rank => if rank < 3 + r then
      some ([b, a, c].getD rank b) else none) = [] := by
    rw [List.filterMap_eq_nil_iff]
    intro rank member
    obtain ⟨k, _, rfl⟩ := List.mem_map.mp member
    exact if_neg (by omega)
  rw [tail, List.append_nil, List.range_add, List.filterMap_append]
  congr 1
  · simp [List.range_succ, Nat.lt_add_right]
  · rw [List.filterMap_map]
    have again : ∀ k ∈ List.range r, ((fun rank => if rank < 3 + r then some ([b, a, c].getD rank b) else none) ∘
        (3 + ·)) k = some b := by
      intro k member
      have bound : 3 + k < 3 + r := Nat.add_lt_add_left (List.mem_range.mp member) 3
      simp [bound]
    rw [List.filterMap_congr again, List.filterMap_eq_map', List.map_const', List.length_range]

theorem chainAgreed {voter : RteVoter} (accepted : Accepted voter size) {a b c : Buffer size}
    (reflexive : voterDataEqual voter.config b b = true) (first : voterDataEqual voter.config a b = true)
    (second : voterDataEqual voter.config c b = true) {r : Nat} (quorum : voterRequiredQuorum voter.config = 3 + r)
    (live : voterRequiredQuorum voter.config ≤ liveChannelCount voter) :
    (voterReceive voter size (chainAnswers voter a b c)).result = some .agreed := by
  have verdict := receiveVerdict accepted (chainAnswers voter a b c)
  have matched : ∀ y ∈ [a, c] ++ List.replicate r b, voterDataEqual voter.config y b = true := by
    intro y member
    rcases List.mem_append.mp member with pair | more
    · rcases List.mem_pair.mp pair with rfl | rfl
      · exact first
      · exact second
    · rw [List.eq_of_mem_replicate more]
      exact reflexive
  have sizes := (classesOneGroup matched).2
  have reached : voterRequiredQuorum voter.config ≤ (largest (classes (voterDataEqual voter.config)
      (responses voter (chainAnswers voter a b c))).sizes).count := by
    rw [chainResponses a b c quorum live]
    have group : (classes (voterDataEqual voter.config) ([b, a, c] ++ List.replicate r b)).sizes = [3 + r] := by
      refine sizes.trans ?_
      simp
      omega
    rw [group, quorum]
    exact (largestSpec [3 + r]).1 (3 + r) (List.mem_singleton_self _)
  cases verdict with
  | agreed _ _ result => exact result
  | disagreed _ split => exact absurd reached (Nat.not_le.mpr split)
  | failed few =>
    rw [chainResponses a b c quorum live] at few
    simp at few
    omega

/- A quorum always means mutual agreement exactly if two responses are enough for one,
or the callback is transitive, or too few channels are up for any quorum. -/
theorem mutualAgreementIff {voter : RteVoter} {compare : VoterCompareFn}
    (registered : voter.config.compare = some compare) (reflexive : ∀ a, compare size a a = true)
    (symmetric : ∀ a b, compare size a b = true → compare size b a = true)
    (accepted : Accepted voter size) :
    ((∀ answers, MutualAgreement voter (responses voter answers) (voterReceive voter size answers)) ↔
      voterRequiredQuorum voter.config ≤ 2 ∨ liveChannelCount voter < voterRequiredQuorum voter.config ∨
        ∀ a b c, compare size a b = true → compare size b c = true → compare size a c = true) ∧
      ∀ answers, EquivalenceOn (compare size) (responses voter answers) →
        MutualAgreement voter (responses voter answers) (voterReceive voter size answers) := by
  have equal : (voterDataEqual voter.config : Buffer size → Buffer size → Bool) = compare size := by
    funext a b
    simp [voterDataEqual, registered]
  have positive := (quorumPositive accepted.count).1
  have grouped : ∀ answers, EquivalenceOn (compare size) (responses voter answers) →
      MutualAgreement voter (responses voter answers) (voterReceive voter size answers) := by
    intro answers equivalence
    rw [← equal] at equivalence
    exact groupAgrees equivalence positive (receiveVerdict accepted answers)
  refine ⟨⟨fun always => ?_, fun condition answers => ?_⟩, grouped⟩
  · by_contra neither
    simp only [not_or, not_forall, Nat.not_le, Nat.not_lt] at neither
    obtain ⟨large, live, a, b, c, first, second, apart⟩ := neither
    obtain ⟨r, quorum⟩ := Nat.exists_eq_add_of_le (Nat.succ_le_of_lt large)
    have values := chainResponses a b c quorum live
    have agreed := chainAgreed accepted (by rw [equal]; exact reflexive b) (by rw [equal]; exact first)
      (by rw [equal]; exact symmetric b c second) quorum live
    obtain ⟨agreeing, part, enough, pairwise, _⟩ := always (chainAnswers voter a b c) agreed
    rw [values] at part
    have whole : agreeing = [b, a, c] ++ List.replicate r b := by
      refine part.eq_of_length_le ?_
      simp
      omega
    rw [whole, equal] at pairwise
    have ends : [a, c].Sublist ([b, a, c] ++ List.replicate r b) := by simp
    have matched := List.pairwise_pair.mp (List.Pairwise.sublist ends pairwise)
    exact apart matched
  · rcases condition with small | few | transitive
    · refine pairAgrees ?_ positive small (receiveVerdict accepted answers)
      rw [equal]
      exact symmetric
    · have responding := responsesBounded (p := fun c => c.health.isHealthy && c.initialized)
        (fun _ up started => by simp [up, started]) voter answers
      intro agreed
      obtain ⟨first, rest, own, quorum, _⟩ := agreedGroup positive (receiveVerdict accepted answers) agreed
      have part := (ofClassSublist (soundClasses (voterDataEqual voter.config) (responses voter answers))
        (largest (classes (voterDataEqual voter.config) (responses voter answers)).sizes).group).length_le
      rw [own] at part
      unfold liveChannelCount at few
      omega
    · exact grouped answers ⟨fun a _ => reflexive a, fun a _ b _ => symmetric a b,
        fun a _ b _ c _ => transitive a b c⟩

def withinOne : VoterCompareFn := fun size a b =>
  (List.finRange size).all fun i => decide (a[i].toNat ≤ b[i].toNat + 1 ∧ b[i].toNat ≤ a[i].toNat + 1)

theorem withinOneRefl (n : Nat) (a : Buffer n) : withinOne n a a = true := by
  simp [withinOne]

theorem withinOneSymm (n : Nat) (a b : Buffer n) (near : withinOne n a b = true) : withinOne n b a = true := by
  simp only [withinOne, List.all_eq_true, decide_eq_true_eq] at near ⊢
  exact fun i member => ⟨(near i member).2, (near i member).1⟩

def toleranceVoter (quorum : UInt32) : RteVoter :=
  liveVoter ⟨.nmr, quorum, some withinOne, .safe, 7, true⟩ 3 threeFit

def spreadAnswers : Nat → ChannelAnswer 1
  | 0 => answered .ok 1
  | 1 => answered .ok 0
  | _ => answered .ok 2

theorem spreadAgreed :
    (∀ n a, withinOne n a a = true) ∧ (∀ n a b, withinOne n a b = true → withinOne n b a = true) ∧
      (voterReceive (toleranceVoter 3) 1 spreadAnswers).result = some .agreed ∧
      ¬MutualAgreement (toleranceVoter 3) (responses (toleranceVoter 3) spreadAnswers)
        (voterReceive (toleranceVoter 3) 1 spreadAnswers) := by
  have agreed : (voterReceive (toleranceVoter 3) 1 spreadAnswers).result = some .agreed := by decide
  refine ⟨withinOneRefl, withinOneSymm, agreed, fun mutual_ => ?_⟩
  obtain ⟨agreeing, part, enough, pairwise, _⟩ := mutual_ agreed
  have values : responses (toleranceVoter 3) spreadAnswers = [#v[1], #v[0], #v[2]] := by decide
  rw [values] at part
  rw [part.eq_of_length_le enough] at pairwise
  exact absurd pairwise (by decide)

theorem twoWithinOneAgree : (voterReceive (toleranceVoter 2) 1 spreadAnswers).result = some .agreed ∧
    MutualAgreement (toleranceVoter 2) (responses (toleranceVoter 2) spreadAnswers)
      (voterReceive (toleranceVoter 2) 1 spreadAnswers) :=
  ⟨by decide, (mutualAgreementIff rfl (withinOneRefl 1) (withinOneSymm 1) ⟨by decide, rfl, by decide, by decide⟩).1.mpr
    (Or.inl (by decide)) spreadAnswers⟩

end PlatformRte.Voter
