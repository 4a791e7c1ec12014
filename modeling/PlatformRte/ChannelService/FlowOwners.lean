import PlatformRte.ChannelService.Flow
import PlatformRte.Lib.Ledger

/-! Any number of channels of the channel service over one flow service. Each reads, sends and
closes on the flow it has opened itself; a flow that is left open belongs to an open channel,
or was dropped by a set up of an open channel or by a close that did not get through. -/
namespace PlatformRte.ChannelService
open Bytes Config Machine Ledger
open Safechannel (NetlinkRole NetlinkConfig)

inductive Event where
  | setup (under : Under) (setupAllowed : RteStatus) (from_ : Resolution) (channelName : Bytes)
  | setupById (under : Under) (setupAllowed : RteStatus) (from_ : Resolution) (channelId : UInt32)
  | read (under : Under) (dataSize : Nat) (timeoutMs : UInt32) (openAnswer : FlowOpenAnswer) (answer : RteStatus)
  | send (under : Under) (dataSize : Nat) (timeoutMs : UInt32) (openAnswer : FlowOpenAnswer) (answer : RteStatus)
  | close (under : Under) (answer : RteStatus)

def perform (state : FlowChannelState) : Event → FlowChannelState × List FlowCall
  | .setup under setupAllowed from_ channelName =>
    ((channelServiceSetup under setupAllowed from_ state channelName).1, [])
  | .setupById under setupAllowed from_ channelId =>
    ((channelServiceSetupById under setupAllowed from_ state channelId).1, [])
  | .read under dataSize timeoutMs openAnswer answer =>
    let done := channelServiceRead under state dataSize timeoutMs openAnswer answer
    (done.1, done.2.2)
  | .send under dataSize timeoutMs openAnswer answer =>
    let done := channelServiceSend under state dataSize timeoutMs openAnswer answer
    (done.1, done.2.2)
  | .close under answer =>
    let done := channelServiceClose under state answer
    (done.1, done.2.2)

def step (state : FlowChannelState) (e : Event) : FlowChannelState := (perform state e).1

def entryOf : FlowCall → Option (Entry Nat)
  | .opening _ => none
  | .opened handle => some (.taken handle)
  | .sent handle => some (.used handle)
  | .received handle => some (.used handle)
  | .closed handle => some (.returned handle)

def flowEntries (state : FlowChannelState) (e : Event) : List (Entry Nat) := (perform state e).2.filterMap entryOf

def flowHeld (state : FlowChannelState) : Finset Nat :=
  match state.opened, state.flowHandle with
  | true, some handle => {handle}
  | _, _ => ∅

def setsUp : Event → Option (Resolution × Bytes)
  | .setup under setupAllowed from_ channelName =>
    if setupAllowed = .ok ∧ under.registered = true then some (from_, channelName) else none
  | .setupById under setupAllowed from_ channelId =>
    if setupAllowed = .ok ∧ under.registered = true then
      (from_.active.bind fun active => (findChannelById active channelId).toOption).map fun channel => (from_, nameOf channel)
    else none
  | _ => none

def closesNothing : Event → Bool
  | .close under _ => under.registered && !(under.osadapter.map FlowOsadapter.close).getD false
  | _ => false

def flowLost (state : FlowChannelState) (e : Event) : Finset Nat :=
  if (setsUp e).isSome || closesNothing e then flowHeld state else ∅

def flowHolder : Holder FlowChannelState Event Nat := ⟨step, flowEntries, flowHeld, flowLost⟩

section Keeps
variable {state : FlowChannelState}

theorem quietKeeps {e : Event} (quiet : flowEntries state e = []) (held : flowHeld (step state e) = flowHeld state)
    (none_ : flowLost state e = ∅) : flowHolder.Keeps state e := by
  refine Holder.keepsOf ?_ (fun flow => ?_) ?_
  · rw [quiet]
    exact alwaysNil _ _ _
  · rw [quiet, held, none_]
    simp [run]
  · rw [none_]
    simp

theorem droppedKeeps {e : Event} (quiet : flowEntries state e = []) (held : flowHeld (step state e) = ∅)
    (dropped : flowLost state e = flowHeld state) : flowHolder.Keeps state e := by
  refine Holder.keepsOf ?_ (fun flow => ?_) ?_
  · rw [quiet]
    exact alwaysNil _ _ _
  · rw [quiet, held, dropped]
    simp [run]
  · rw [held]
    simp

def UsesIts (call : Option Nat → RteStatus × List FlowCall) : Prop :=
  ∀ handle, (call handle).2.filterMap entryOf = [] ∨
    ∃ flow, handle = some flow ∧ (call handle).2.filterMap entryOf = [.used flow]

theorem flowCallUses (osadapter : Option FlowOsadapter) (operation : FlowOsadapter → Bool) {call : Nat → FlowCall}
    (uses : ∀ flow, entryOf (call flow) = some (.used flow)) (answer : RteStatus) :
    UsesIts fun handle => flowCall osadapter operation call handle answer := by
  intro handle
  cases handle with
  | none => exact Or.inl rfl
  | some flow =>
    cases osadapter with
    | none => exact Or.inl rfl
    | some osadapter =>
      cases has : operation osadapter with
      | false => exact Or.inl (by simp [flowCall, has])
      | true => exact Or.inr ⟨flow, rfl, by simp [flowCall, has, uses]⟩

theorem receiveUses (osadapter : Option FlowOsadapter) (bufferSize : Nat) (answer : RteStatus) :
    UsesIts fun handle => flowReceive osadapter handle bufferSize answer := by
  intro handle
  dsimp only
  rw [flowReceive]
  split
  · exact Or.inl rfl
  · exact flowCallUses osadapter FlowOsadapter.receive (fun _ => rfl) answer handle

theorem sendUses (osadapter : Option FlowOsadapter) (dataSize : Nat) (answer : RteStatus) :
    UsesIts fun handle => flowSend osadapter handle dataSize answer := by
  intro handle
  dsimp only
  rw [flowSend]
  split
  · exact Or.inl rfl
  · exact flowCallUses osadapter FlowOsadapter.send (fun _ => rfl) answer handle

inductive Served (state after : FlowChannelState) (calls : List FlowCall) : Prop
  | still (held : flowHeld after = flowHeld state) (quiet : calls.filterMap entryOf = [])
  | used (flow : Nat) (held : flowHeld after = flowHeld state) (mine : flow ∈ flowHeld state)
      (uses : calls.filterMap entryOf = [.used flow])
  | opens (flow : Nat) (none_ : flowHeld state = ∅) (held : flowHeld after = {flow})
      (taken : calls.filterMap entryOf = [.taken flow] ∨ calls.filterMap entryOf = [.taken flow, .used flow])

theorem ensureOpenCases (osadapter : Option FlowOsadapter) (state : FlowChannelState) (openTimeoutMs : UInt32)
    (answer : FlowOpenAnswer) :
    (state.opened = true ∧ ensureOpen osadapter state openTimeoutMs answer = (state, .ok, [])) ∨
      (state.opened = false ∧ ∃ status handle calls, status ≠ .ok ∧
        (calls = [] ∨ calls = [.opening (openingConfig state openTimeoutMs)]) ∧
        ensureOpen osadapter state openTimeoutMs answer =
          ({ state with flowHandle := handle, opened := false }, status, calls)) ∨
      (state.opened = false ∧ ∃ handle : Option Nat,
        ensureOpen osadapter state openTimeoutMs answer =
          ({ state with flowHandle := handle, opened := true }, .ok,
            .opening (openingConfig state openTimeoutMs) :: (handle.map .opened).toList)) := by
  cases isOpen : state.opened with
  | true => exact Or.inl ⟨rfl, by simp [ensureOpen, isOpen]⟩
  | false =>
    refine Or.inr ?_
    simp only [ensureOpen, isOpen, Bool.false_eq_true, if_false, true_and]
    unfold flowOpen
    split
    · exact Or.inl ⟨_, _, _, by simp, Or.inl rfl, rfl⟩
    split
    · exact Or.inl ⟨_, _, _, by simp, Or.inl rfl, rfl⟩
    split
    · exact Or.inl ⟨_, _, _, by simp, Or.inl rfl, rfl⟩
    split
    · exact Or.inl ⟨_, _, _, by simp, Or.inl rfl, rfl⟩
    split
    · rename_i handle
      exact Or.inr ⟨handle, rfl⟩
    · rename_i status
      exact Or.inl ⟨status.val, none, [.opening (openingConfig state openTimeoutMs)], status.2, Or.inr rfl,
        by simp [status.2]⟩

theorem openedCallServed (osadapter : Option FlowOsadapter) (state : FlowChannelState) (dataSize : Nat)
    (timeoutMs : UInt32) (answer : FlowOpenAnswer) {call : Option Nat → RteStatus × List FlowCall} (uses : UsesIts call) :
    Served state (openedCall osadapter state dataSize timeoutMs answer call).1
      (openedCall osadapter state dataSize timeoutMs answer call).2.2 := by
  unfold openedCall
  split
  · exact .still rfl rfl
  split
  · exact .still rfl rfl
  rcases ensureOpenCases osadapter state timeoutMs answer with ⟨isOpen, runs⟩ | ⟨shut, status, handle, calls, bad, quiet, runs⟩ |
    ⟨shut, handle, runs⟩
  · rw [runs]
    simp only [ne_eq, not_true_eq_false, if_false, List.nil_append]
    rcases uses state.flowHandle with quiet | ⟨flow, is, used⟩
    · exact .still rfl quiet
    · exact .used flow rfl (by simp [flowHeld, isOpen, is]) used
  · rw [runs]
    simp only [if_pos bad]
    refine .still (by simp [flowHeld, shut]) ?_
    rcases quiet with rfl | rfl <;> rfl
  · rw [runs]
    simp only [ne_eq, not_true_eq_false, if_false]
    cases handle with
    | none =>
      refine .still (by simp [flowHeld, shut]) ?_
      rcases uses none with quiet | ⟨flow, is, -⟩
      · simpa [entryOf] using quiet
      · cases is
    | some flow =>
      refine .opens flow (by simp [flowHeld, shut]) (by simp [flowHeld]) ?_
      rcases uses (some flow) with quiet | ⟨flow', is, used⟩
      · exact Or.inl (by simp [entryOf, List.filterMap_cons, quiet])
      · cases is
        exact Or.inr (by simp [entryOf, List.filterMap_cons, used])

theorem servedKeeps {e : Event} (served : Served state (perform state e).1 (perform state e).2)
    (none_ : flowLost state e = ∅) : flowHolder.Keeps state e := by
  cases served with
  | still held quiet => exact quietKeeps quiet held none_
  | used flow held mine uses =>
    have entries : flowEntries state e = [.used flow] := uses
    refine Holder.keepsOf ?_ (fun other => ?_) (by simp [none_])
    · rw [entries]
      exact alwaysCons.mpr ⟨mine, alwaysNil _ _ _⟩
    · rw [entries, none_, step, held]
      simp [run, move]
  | opens flow empty held taken =>
    have after : flowHeld (step state e) = {flow} := held
    have entries : flowEntries state e = [.taken flow] ∨ flowEntries state e = [.taken flow, .used flow] := taken
    rcases entries with entries | entries
    · refine Holder.keepsOf ?_ (fun other => ?_) (by simp [none_])
      · rw [entries]
        exact alwaysCons.mpr ⟨trivial, alwaysNil _ _ _⟩
      · rw [entries, none_, after, empty]
        simp [run, move]
    · refine Holder.keepsOf ?_ (fun other => ?_) (by simp [none_])
      · rw [entries]
        exact alwaysCons.mpr ⟨trivial, alwaysCons.mpr ⟨Finset.mem_insert_self _ _, alwaysNil _ _ _⟩⟩
      · rw [entries, none_, after, empty]
        simp [run, move]

def IsSetup : Event → Prop
  | .setup _ _ _ _ => True
  | .setupById _ _ _ _ => True
  | _ => False

theorem performSetup (state : FlowChannelState) {e : Event} (setup : IsSetup e) :
    perform state e =
      (match setsUp e with
        | some (from_, channelName) => (osadapterSetup from_ channelName).1
        | none => state, []) := by
  have accepts (under : Under) (setupAllowed : RteStatus) (from_ : Resolution) (channelName : Bytes) :
      (channelServiceSetup under setupAllowed from_ state channelName).1 =
        if setupAllowed = .ok ∧ under.registered = true then (osadapterSetup from_ channelName).1 else state := by
    unfold channelServiceSetup
    by_cases allowed : setupAllowed = .ok <;> cases registered : under.registered <;> simp [allowed]
  cases e with
  | setup under setupAllowed from_ channelName =>
    rw [perform, accepts]
    by_cases accepted : setupAllowed = .ok ∧ under.registered = true <;> simp [setsUp, accepted]
  | setupById under setupAllowed from_ channelId =>
    rw [perform, channelServiceSetupById]
    cases active : from_.active with
    | none => simp [setsUp, active]
    | some config =>
      cases found : findChannelById config channelId with
      | error status => simp [setsUp, active, found, Except.toOption]
      | ok channel =>
        simp only [found]
        rw [accepts]
        by_cases accepted : setupAllowed = .ok ∧ under.registered = true <;>
          simp [setsUp, active, found, Except.toOption, accepted]
  | _ => cases setup

theorem setupKeeps {e : Event} (setup : IsSetup e) : flowHolder.Keeps state e := by
  have performed := performSetup state setup
  have quiet : flowEntries state e = [] := by rw [flowEntries, performed]; rfl
  have noClose : closesNothing e = false := by
    cases e with
    | close => cases setup
    | _ => rfl
  cases sets : setsUp e with
  | none =>
    refine quietKeeps quiet ?_ (by simp [flowLost, sets, noClose])
    rw [step, performed, sets]
  | some named =>
    obtain ⟨from_, channelName⟩ := named
    refine droppedKeeps quiet ?_ (by simp [flowLost, sets])
    rw [step, performed, sets]
    dsimp only
    unfold osadapterSetup
    split <;> rfl

theorem closeKeeps (under : Under) (answer : RteStatus) : flowHolder.Keeps state (.close under answer) := by
  cases registered : under.registered with
  | false =>
    refine quietKeeps ?_ ?_ (by simp [flowLost, setsUp, closesNothing, registered])
    · simp [flowEntries, perform, channelServiceClose, registered]
    · simp [step, perform, channelServiceClose, registered]
  | true =>
    cases isOpen : state.opened with
    | false =>
      have empty : flowHeld state = ∅ := by simp [flowHeld, isOpen]
      refine quietKeeps ?_ ?_ (by simp [flowLost, empty])
      · simp [flowEntries, perform, channelServiceClose, osadapterClose, registered, isOpen]
      · simp [step, perform, channelServiceClose, osadapterClose, registered, isOpen, flowHeld]
    | true =>
      have after : flowHeld (step state (.close under answer)) = ∅ := by
        simp [step, perform, channelServiceClose, osadapterClose, registered, isOpen, flowHeld]
      have entries : flowEntries state (.close under answer) =
          (flowClose under.osadapter state.flowHandle answer).2.filterMap entryOf := by
        simp [flowEntries, perform, channelServiceClose, osadapterClose, registered, isOpen]
      cases handle : state.flowHandle with
      | none =>
        have empty : flowHeld state = ∅ := by simp [flowHeld, handle]
        refine quietKeeps ?_ (by rw [after, empty]) (by simp [flowLost, empty])
        rw [entries, handle]
        rfl
      | some flow =>
        have held : flowHeld state = {flow} := by simp [flowHeld, isOpen, handle]
        cases has : (under.osadapter.map FlowOsadapter.close).getD false with
        | false =>
          refine droppedKeeps ?_ after (by simp [flowLost, closesNothing, registered, has])
          rw [entries, handle]
          cases there : under.osadapter with
          | none => rfl
          | some osadapter =>
            have lacks : osadapter.close = false := by simpa [there] using has
            simp [flowClose, flowCall, lacks]
        | true =>
          have closes : flowEntries state (.close under answer) = [.returned flow] := by
            rw [entries, handle]
            cases there : under.osadapter with
            | none => simp [there] at has
            | some osadapter =>
              have closing : osadapter.close = true := by simpa [there] using has
              simp [flowClose, flowCall, closing, entryOf]
          have none_ : flowLost state (.close under answer) = ∅ := by
            simp [flowLost, setsUp, closesNothing, registered, has]
          refine Holder.keepsOf ?_ (fun other => ?_) (by simp [none_])
          · rw [closes, held]
            exact alwaysCons.mpr ⟨Finset.mem_singleton_self flow, alwaysNil _ _ _⟩
          · rw [closes, none_, after, held]
            simp [run, move]

theorem stepKeeps (state : FlowChannelState) (e : Event) : flowHolder.Keeps state e := by
  cases e with
  | setup under setupAllowed from_ channelName => exact setupKeeps trivial
  | setupById under setupAllowed from_ channelId => exact setupKeeps trivial
  | close under answer => exact closeKeeps under answer
  | read under dataSize timeoutMs openAnswer answer =>
    refine servedKeeps ?_ rfl
    simp only [perform, channelServiceRead]
    split
    · exact .still rfl rfl
    split
    · exact .still rfl rfl
    · exact openedCallServed _ _ _ _ _ (receiveUses _ _ _)
  | send under dataSize timeoutMs openAnswer answer =>
    refine servedKeeps ?_ rfl
    simp only [perform, channelServiceSend]
    split
    · exact .still rfl rfl
    split
    · exact .still rfl rfl
    · exact openedCallServed _ _ _ _ _ (sendUses _ _ _)

end Keeps

section Pool
variable {ι : Type} [DecidableEq ι] {pool : ι → FlowChannelState} {events : List (ι × Event)}

/- Whatever is called on the channels, in whatever order: each flow that is used or closed is
open, no two channels have the same flow, and the flows that are open are those of the
channels and those that a channel was made to forget. -/
theorem flowsOwned (unopened : ∀ i, (pool i).opened = false)
    (fresh : Always move Fresh ∅ (flowHolder.traceFrom pool events)) :
    Always move Own ∅ (flowHolder.traceFrom pool events) ∧
      (∀ i j, i ≠ j → ∀ flow ∈ flowHeld (run flowHolder.poolStep pool events i),
        flow ∉ flowHeld (run flowHolder.poolStep pool events j)) ∧
      ∀ flow, flow ∈ run move ∅ (flowHolder.traceFrom pool events) ↔
        (∃ i, flow ∈ flowHeld (run flowHolder.poolStep pool events i)) ∨
          ∃ before i e after, events = before ++ (i, e) :: after ∧ ((setsUp e).isSome || closesNothing e) = true ∧
            flow ∈ flowHeld (run flowHolder.poolStep pool before i) := by
  have none_ : ∀ i, flowHolder.held (pool i) = ∅ := fun i => by
    show flowHeld (pool i) = ∅
    simp [flowHeld, unopened i]
  have accounts := Holder.accountsAlways none_ stepKeeps fresh
  refine ⟨accounts.own, accounts.apart, fun flow => (accounts.out flow).trans (or_congr Iff.rfl ?_)⟩
  have forgotten (s : FlowChannelState) (e : Event) :
      flow ∈ flowLost s e ↔ ((setsUp e).isSome || closesNothing e) = true ∧ flow ∈ flowHeld s := by
    unfold flowLost
    by_cases drops : ((setsUp e).isSome || closesNothing e) = true <;> simp [drops]
  constructor
  · rintro ⟨before, i, e, after, split, lost⟩
    obtain ⟨drops, held⟩ := (forgotten _ e).mp lost
    exact ⟨before, i, e, after, split, drops, held⟩
  · rintro ⟨before, i, e, after, split, drops, held⟩
    exact ⟨before, i, e, after, split, (forgotten _ e).mpr ⟨drops, held⟩⟩

def allClosed : Nat → FlowChannelState := fun _ => clearedState

def working : Under := ⟨true, some ⟨true, true, true, true⟩⟩

def anyName : Resolution := ⟨some fun _ => .ok ⟨.connect, none, 15001, 96, 500⟩, none⟩

def setUpTwice : List (Nat × Event) :=
  [(0, .setup working .ok anyName [0x61]), (1, .setup working .ok anyName [0x62]),
    (0, .read working 1 100 (.opened (some 7)) .timeout), (1, .send working 1 100 (.opened (some 8)) .ok),
    (0, .setup working .ok anyName [0x61]), (0, .send working 1 100 (.opened (some 9)) .ok), (0, .close working .ok),
    (1, .close working .ok)]

theorem setUpTwiceLeavesOpen :
    Always move Own ∅ (flowHolder.traceFrom allClosed setUpTwice) ∧
      7 ∈ run move ∅ (flowHolder.traceFrom allClosed setUpTwice) := by
  have fresh : Always move Fresh ∅ (flowHolder.traceFrom allClosed setUpTwice) := by decide +kernel
  have owned := flowsOwned (fun _ => rfl) fresh
  refine ⟨owned.1, (owned.2.2 7).mpr (Or.inr ⟨setUpTwice.take 4, 0, _, setUpTwice.drop 5, rfl, rfl, ?_⟩)⟩
  decide +kernel

end Pool

end PlatformRte.ChannelService
