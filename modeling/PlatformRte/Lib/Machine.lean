import Mathlib.Data.List.Induction

/-! Runs of a deterministic machine on a list of events, and the rules by which
facts about one step become facts about every step of a run. An environment is
part of the events, so a statement for all event lists covers all behaviours. -/
namespace PlatformRte.Machine

variable {State Event Abstract Move : Type*}

def run (step : State → Event → State) (s : State) (events : List Event) : State :=
  events.foldl step s

theorem runSnoc (step : State → Event → State) (s : State) (events : List Event) (e : Event) :
    run step s (events ++ [e]) = step (run step s events) e := by
  simp [run]

theorem runAppend (step : State → Event → State) (s : State) (first second : List Event) :
    run step s (first ++ second) = run step (run step s first) second := by
  simp [run]

/- Every step of the run, seen with the state it starts from. -/
def Always (step : State → Event → State) (P : State → Event → Prop) (s : State)
    (events : List Event) : Prop :=
  ∀ before e after, events = before ++ e :: after → P (run step s before) e

theorem alwaysNil (step : State → Event → State) (P : State → Event → Prop) (s : State) :
    Always step P s [] := by
  intro before e after split
  simp at split

theorem alwaysSnoc {step : State → Event → State} {P : State → Event → Prop} {s : State}
    {events : List Event} {e : Event} :
    Always step P s (events ++ [e]) ↔ Always step P s events ∧ P (run step s events) e := by
  constructor
  · intro always
    refine ⟨fun before x after split => always before x (after ++ [e]) (by simp [split]), ?_⟩
    exact always events e [] rfl
  · rintro ⟨always, last⟩ before x after split
    rcases List.eq_nil_or_concat after with rfl | ⟨init, z, rfl⟩
    · obtain ⟨rfl, same⟩ := List.append_inj' split rfl
      cases same
      exact last
    · have shape : events ++ [e] = (before ++ x :: init) ++ [z] := by simpa using split
      obtain ⟨same, _⟩ := List.append_inj' shape rfl
      exact always before x init same

theorem alwaysCons {step : State → Event → State} {P : State → Event → Prop} {s : State}
    {e : Event} {events : List Event} :
    Always step P s (e :: events) ↔ P s e ∧ Always step P (step s e) events := by
  constructor
  · intro always
    exact ⟨always [] e events rfl,
      fun before x after split => always (e :: before) x after (by simp [split])⟩
  · rintro ⟨head, tail⟩ before x after split
    cases before with
    | nil =>
      cases split
      exact head
    | cons y init =>
      obtain ⟨rfl, rest⟩ := List.cons.inj split
      exact tail init x after rest

instance decidableAlways (step : State → Event → State) (P : State → Event → Prop)
    [∀ s e, Decidable (P s e)] : ∀ s events, Decidable (Always step P s events)
  | s, [] => isTrue (alwaysNil step P s)
  | s, e :: events =>
      have := decidableAlways step P (step s e) events
      decidable_of_iff (P s e ∧ Always step P (step s e) events) alwaysCons.symm

theorem alwaysMono {step : State → Event → State} {P Q : State → Event → Prop} {s : State}
    {events : List Event} (imp : ∀ m e, P m e → Q m e) (always : Always step P s events) :
    Always step Q s events :=
  fun before e after split => imp _ _ (always before e after split)

theorem alwaysPrefix {step : State → Event → State} {P : State → Event → Prop} {s : State}
    {first second : List Event} (always : Always step P s (first ++ second)) :
    Always step P s first :=
  fun before e after split => always before e (after ++ second) (by simp [split])

theorem invariantRun {step : State → Event → State} {P : State → Event → Prop} {Inv : State → Prop}
    {s : State} {events : List Event} (start : Inv s)
    (keep : ∀ m e, Inv m → P m e → Inv (step m e)) (always : Always step P s events) :
    Inv (run step s events) := by
  induction events using List.reverseRecOn with
  | nil => exact start
  | append_singleton init e ih =>
    obtain ⟨before, last⟩ := alwaysSnoc.mp always
    rw [runSnoc]
    exact keep _ _ (ih before) last

/- An invariant that the admitted steps keep may be used at every step. -/
theorem alwaysOfInvariant {step : State → Event → State} {P Q : State → Event → Prop}
    {Inv : State → Prop} {s : State} {events : List Event} (start : Inv s)
    (keep : ∀ m e, Inv m → P m e → Inv (step m e)) (use : ∀ m e, Inv m → P m e → Q m e)
    (always : Always step P s events) : Always step Q s events := by
  intro before e after split
  subst split
  have init : Inv (run step s before) := invariantRun start keep (alwaysPrefix always)
  exact use _ _ init (always before e after rfl)

theorem alwaysCongr {step : State → Event → State} {P Q : State → Event → Prop} {s : State}
    {events : List Event} (same : ∀ m e, P m e ↔ Q m e) : Always step P s events ↔ Always step Q s events :=
  ⟨alwaysMono fun m e => (same m e).mp, alwaysMono fun m e => (same m e).mpr⟩

/- A property of the end of a run that each admitted step keeps exactly under a condition. -/
theorem admittedIff {step : State → Event → State} {P C : State → Event → Prop} {Inv Good : State → Prop} {s : State}
    {events : List Event} (start : Inv s) (good : Good s) (keep : ∀ m e, Inv m → P m e → Inv (step m e))
    (exact : ∀ m e, Inv m → P m e → (Good (step m e) ↔ Good m ∧ C m e)) (always : Always step P s events) :
    Good (run step s events) ↔ Always step C s events := by
  have both : Inv (run step s events) ∧ (Good (run step s events) ↔ Always step C s events) := by
    induction events using List.reverseRecOn with
    | nil => exact ⟨start, fun _ => alwaysNil step C s, fun _ => good⟩
    | append_singleton init e ih =>
      obtain ⟨before, last⟩ := alwaysSnoc.mp always
      obtain ⟨inv, iff⟩ := ih before
      rw [runSnoc, alwaysSnoc, exact _ _ inv last, iff]
      exact ⟨keep _ _ inv last, Iff.rfl⟩
  exact both.2

theorem runIff {step : State → Event → State} {C : State → Event → Prop} {Inv Good : State → Prop} {s : State}
    {events : List Event} (start : Inv s) (good : Good s) (keep : ∀ m e, Inv m → Inv (step m e))
    (exact : ∀ m e, Inv m → (Good (step m e) ↔ Good m ∧ C m e)) :
    Good (run step s events) ↔ Always step C s events :=
  admittedIff start good (fun m e inv (_ : True) => keep m e inv) (fun m e inv _ => exact m e inv)
    fun _ _ _ _ => trivial

/- Forward simulation: each concrete step is matched by some abstract moves. -/
theorem simulates {step : State → Event → State} {P : State → Event → Prop}
    {move : Abstract → Move → Abstract} {R : State → Abstract → Prop} {s : State} {t : Abstract}
    {events : List Event} (start : R s t)
    (matched : ∀ m n e, R m n → P m e → ∃ moves, R (step m e) (run move n moves))
    (always : Always step P s events) :
    ∃ moves, R (run step s events) (run move t moves) := by
  induction events using List.reverseRecOn with
  | nil => exact ⟨[], start⟩
  | append_singleton init e ih =>
    obtain ⟨before, last⟩ := alwaysSnoc.mp always
    obtain ⟨moves, related⟩ := ih before
    obtain ⟨more, next⟩ := matched _ _ e related last
    exact ⟨moves ++ more, by rw [runSnoc, runAppend]; exact next⟩

/- A rank that every admitted step lowers is used up by a run that is long enough. -/
theorem rankRun {step : State → Event → State} {P : State → Event → Prop} {Inv : State → Prop} (rank : State → Nat)
    {s : State} {events : List Event} (start : Inv s) (keep : ∀ m e, Inv m → P m e → Inv (step m e))
    (falls : ∀ m e, Inv m → P m e → rank (step m e) ≤ rank m - 1) (always : Always step P s events) :
    rank (run step s events) ≤ rank s - events.length := by
  induction events using List.reverseRecOn with
  | nil => exact Nat.le_refl _
  | append_singleton init e ih =>
    obtain ⟨before, last⟩ := alwaysSnoc.mp always
    have inv := invariantRun start keep before
    have lower := falls _ _ inv last
    have upTo := ih before
    rw [runSnoc, List.length_append, List.length_singleton]
    omega

end PlatformRte.Machine
