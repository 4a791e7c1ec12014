import PlatformRte.Lib.Machine

/-! Runs with some of their steps left out or put in another way: when each step does what its
replacement does, up to a relation on the states, so does the whole run. -/
namespace PlatformRte.Machine

variable {State Event Told : Type*} {step : State → Event → State} {Inv : State → Prop}

def erased (step : State → Event → State) (stays : State → Event → List Event) : State → List Event → List Event
  | _, [] => []
  | s, e :: rest => stays s e ++ erased step stays (step s e) rest

def told (step : State → Event → State) (tells : State → Event → List Told) : State → List Event → List Told
  | _, [] => []
  | s, e :: rest => tells s e ++ told step tells (step s e) rest

theorem erasedRun {stays : State → Event → List Event} {Same : State → State → Prop}
    (keep : ∀ m e, Inv m → Inv (step m e))
    (matched : ∀ m n e, Inv m → Same m n → Same (step m e) (run step n (stays m e)))
    (events : List Event) {s t : State} (inv : Inv s) (same : Same s t) :
    Same (run step s events) (run step t (erased step stays s events)) := by
  induction events generalizing s t with
  | nil => exact same
  | cons e rest ih =>
    rw [erased, runAppend]
    exact ih (keep s e inv) (matched s t e inv same)

/- A log that every step lengthens by what it tells. -/
theorem toldRun (log : State → List Told) {tells : State → Event → List Told} (keep : ∀ m e, Inv m → Inv (step m e))
    (adds : ∀ m e, Inv m → log (step m e) = log m ++ tells m e) (events : List Event) {s : State} (inv : Inv s) :
    log (run step s events) = log s ++ told step tells s events := by
  induction events generalizing s with
  | nil => exact (List.append_nil _).symm
  | cons e rest ih =>
    have later : log (run step (step s e) rest) = log (step s e) ++ told step tells (step s e) rest :=
      ih (keep s e inv)
    rw [told, ← List.append_assoc, ← adds s e inv]
    exact later

end PlatformRte.Machine
