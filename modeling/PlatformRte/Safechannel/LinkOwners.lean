import PlatformRte.Safechannel.Traffic
import PlatformRte.Lib.Ledger
import Mathlib.Data.List.GetD

/-! Any number of safe channels over one netlink service. Each sends, receives and closes on
links it has opened and not closed yet; two of them never share a link; and a link that is
left open belongs to an open channel or to one that was opened again without a close. -/
namespace PlatformRte.Safechannel
open Voter PlatformRte.Dual.Channel Machine Ledger

section Entries

def entryOf : ServiceCall → Option (Entry Nat)
  | .opened handle => some (.taken handle)
  | .closed handle => some (.returned handle)
  | _ => none

def entriesOf (calls : List ServiceCall) : List (Entry Nat) := calls.filterMap entryOf

/- The links of a voter that are asked, each by its own copy of the handle. -/
def askedLinks (links : List Nat) (voter : RteVoter) (asked : Nat → Bool) : List Nat :=
  ((List.range voter.channels.length).filter asked).map fun i => links.getD i 0

/- The link of the next access. An acknowledgement goes out on the link that was read. -/
def accessedLinks (links : List Nat) (channel : DualChannel) (call : Call) : List Nat :=
  match nextAction channel call with
  | .transmit i _ => [links.getD i 0]
  | .poll i => [links.getD i 0]
  | .finish => []

def linksUsed (c : Fitted) : Event → List Nat
  | .sends payload _ =>
    match c.impl with
    | .vital links voter => askedLinks links voter (reachesTransports voter payload.length)
    | _ => []
  | .receives maxSize _ =>
    match c.impl with
    | .vital links voter => askedLinks links voter (polls voter maxSize)
    | _ => []
  | .accesses _ _ =>
    match c.impl, c.call with
    | .dual links channel, some call => accessedLinks links channel call
    | _, _ => []
  | _ => []

def linkEntries (c : Fitted) (e : Event) : List (Entry Nat) :=
  match e with
  | .accesses _ _ => (linksUsed c e).map .used
  | .opens netlinkOpen setupAllowed config =>
    if c.call.isSome then [] else entriesOf (safechannelOpen c netlinkOpen setupAllowed config).2.2
  | .closes => if c.call.isSome then [] else entriesOf (safechannelClose c).2.2
  | _ => if c.call.isSome ∨ c.state.isOpen = false then [] else (linksUsed c e).map .used

def linksHeld (c : Fitted) : Finset Nat := if c.state.isOpen then (handlesOf c.state).toFinset else ∅

/- The storage of an open channel is zeroed when it is opened again. -/
def linksLost (c : Fitted) : Event → Finset Nat
  | .opens _ _ _ => if c.call.isSome then ∅ else linksHeld c
  | _ => ∅

def linkHolder : Holder Fitted Event Nat := ⟨step, linkEntries, linksHeld, linksLost⟩

theorem entriesTaken (handles : List Nat) : entriesOf (handles.map .opened) = handles.map .taken := by
  rw [entriesOf, List.filterMap_map]
  exact congrFun (List.filterMap_eq_map (f := Entry.taken)) handles

theorem entriesReturned (handles : List Nat) : entriesOf (handles.map .closed) = handles.map .returned := by
  rw [entriesOf, List.filterMap_map]
  exact congrFun (List.filterMap_eq_map (f := Entry.returned)) handles

theorem entriesDestroyed (count : Nat) :
    entriesOf ((List.range count).map .channelDestroyed ++ [.voterDestroyed]) = [] := by
  refine List.filterMap_eq_nil_iff.mpr fun call inside => ?_
  rcases List.mem_append.mp inside with channel | voter
  · obtain ⟨i, _, rfl⟩ := List.mem_map.mp channel
    rfl
  · rw [List.mem_singleton.mp voter]
    rfl

end Entries

structure Orderly (c : Fitted) : Prop where
  opened : c.state.isOpen = true → ∃ handles, Carries c handles ∧ handles.Nodup
  idle : c.state.isOpen = false → c.call = none

section Held

theorem heldOpen {c : Fitted} {handles : List Nat} (isOpen : c.state.isOpen = true) (carries : Carries c handles) :
    linksHeld c = handles.toFinset := by
  rw [linksHeld, if_pos isOpen, handlesHeld carries.holds carries.all]

theorem heldClosed {c : Fitted} (closed : c.state.isOpen = false) : linksHeld c = ∅ := by
  rw [linksHeld, if_neg (by simp [closed])]

theorem askedOwn {handles links : List Nat} {type : SafechannelType} {voter : RteVoter}
    (built : ImplOver handles type (.vital links voter)) (asked : Nat → Bool) :
    ∀ link ∈ askedLinks links voter asked, link ∈ handles := by
  cases built with
  | vital _ _ count _ _ =>
    intro link member
    obtain ⟨i, inside, rfl⟩ := List.mem_map.mp member
    have below : i < handles.length := by
      rw [← count]
      exact List.mem_range.mp (List.mem_filter.mp inside).1
    rw [List.getD_eq_getElem _ _ below]
    exact List.getElem_mem below

theorem nextInside {channel : DualChannel} {call : Call} :
    match nextAction channel call with
    | .transmit i _ => i < channel.linkCount
    | .poll i => i < channel.linkCount
    | .finish => True := by
  cases call with
  | exchange payload frame link ackCount hardFault wait =>
    cases wait with
    | none => by_cases inside : link < channel.linkCount <;> simp [nextAction, inside]
    | some w => by_cases inside : link < channel.linkCount <;> simp [nextAction, inside]
  | receive maxSize link hardFault => by_cases inside : link < channel.linkCount <;> simp [nextAction, inside]
  | beacon frame link sentCount => by_cases inside : link < channel.linkCount <;> simp [nextAction, inside]
  | receiveState link => by_cases inside : link < channel.linkCount <;> simp [nextAction, inside]

theorem accessedOwn {handles links : List Nat} {type : SafechannelType} {channel : DualChannel}
    (built : ImplOver handles type (.dual links channel)) (call : Call) :
    ∀ link ∈ accessedLinks links channel call, link ∈ handles := by
  cases built with
  | dual _ count =>
    have inside (i : Nat) (below : i < channel.linkCount) : handles.getD i 0 ∈ handles := by
      rw [count] at below
      rw [List.getD_eq_getElem _ _ below]
      exact List.getElem_mem below
    have next := @nextInside channel call
    intro link member
    unfold accessedLinks at member
    split at member
    · rename_i i raw is
      rw [is] at next
      rw [List.mem_singleton.mp member]
      exact inside i next
    · rename_i i is
      rw [is] at next
      rw [List.mem_singleton.mp member]
      exact inside i next
    · cases member

theorem usedOwn {c : Fitted} {handles : List Nat} (carries : Carries c handles) (e : Event) :
    ∀ link ∈ linksUsed c e, link ∈ handles := by
  have built := carries.impl
  intro link member
  cases e with
  | opens => cases member
  | closes => cases member
  | sends payload answers =>
    simp only [linksUsed] at member
    split at member
    · rename_i links voter is
      rw [is] at built
      exact askedOwn built _ link member
    · cases member
  | receives maxSize answers =>
    simp only [linksUsed] at member
    split at member
    · rename_i links voter is
      rw [is] at built
      exact askedOwn built _ link member
    · cases member
  | accesses m answer =>
    simp only [linksUsed] at member
    split at member
    · rename_i links channel call is _
      rw [is] at built
      exact accessedOwn built call link member
    · cases member

end Held

section Keeps
variable {c : Fitted}

theorem closedStill (closed : c.state.isOpen = false) (idle : c.call = none) {e : Event} (traffic : IsTraffic e) :
    step c e = c := by
  cases e with
  | opens => cases traffic
  | closes => cases traffic
  | sends => simp [step, idle, safechannelSend, closed, started]
  | receives => simp [step, idle, safechannelReceive, closed, started]
  | accesses => cases is : c.impl <;> simp [step, safechannelAccess, is, idle]

theorem trafficOrderly (orderly : Orderly c) {e : Event} (traffic : IsTraffic e) :
    Orderly (step c e) ∧ linkHolder.Keeps c e := by
  obtain ⟨state, impl⟩ := trafficKeeps (c := c) traffic
  have none_ : linksLost c e = ∅ := by
    cases e with
    | opens => cases traffic
    | _ => rfl
  have held : linksHeld (step c e) = linksHeld c := by
    rw [linksHeld, linksHeld, state]
  have entries : ∃ used : List Nat, linkEntries c e = used.map .used ∧ ∀ link ∈ used, link ∈ linksHeld c := by
    cases isOpen : c.state.isOpen with
    | false =>
      refine ⟨[], ?_, by simp⟩
      have idle := orderly.idle isOpen
      cases e with
      | opens => cases traffic
      | closes => cases traffic
      | sends => simp [linkEntries, isOpen]
      | receives => simp [linkEntries, isOpen]
      | accesses => cases c.impl <;> simp [linkEntries, linksUsed, idle]
    | true =>
      obtain ⟨handles, carries, -⟩ := orderly.opened isOpen
      have own : ∀ link ∈ linksUsed c e, link ∈ linksHeld c := by
        rw [heldOpen isOpen carries]
        exact fun link member => List.mem_toFinset.mpr (usedOwn carries e link member)
      cases e with
      | opens => cases traffic
      | closes => cases traffic
      | accesses => exact ⟨_, rfl, own⟩
      | _ =>
        by_cases busy : c.call.isSome = true
        · exact ⟨[], by simp [linkEntries, busy], by simp⟩
        · exact ⟨_, by simp [linkEntries, busy, isOpen], own⟩
  obtain ⟨used, is, own⟩ := entries
  refine ⟨⟨fun isOpen => ?_, fun closed => ?_⟩, Holder.keepsOf ?_ (fun link => ?_) ?_⟩
  · rw [state] at isOpen
    obtain ⟨handles, carries, once⟩ := orderly.opened isOpen
    exact ⟨handles, carries.keeps state (impl handles carries.impl), once⟩
  · rw [state] at closed
    rw [closedStill closed (orderly.idle closed) traffic]
    exact orderly.idle closed
  · rw [is]
    exact ownUsed own
  · rw [is, usedOut, held, none_]
    simp
  · rw [none_]
    simp

theorem busyOrderly (orderly : Orderly c) {e : Event} (still : step c e = c) (quiet : linkEntries c e = [])
    (none_ : linksLost c e = ∅) : Orderly (step c e) ∧ linkHolder.Keeps c e := by
  refine ⟨by rw [still]; exact orderly, Holder.keepsOf ?_ (fun link => ?_) ?_⟩
  · rw [quiet]
    exact alwaysNil _ _ _
  · rw [quiet, still, none_]
    simp [run]
  · rw [none_]
    simp

theorem openOrderly (orderly : Orderly c) (netlinkOpen : Nat → NetlinkConfig → OpenAnswer) (setupAllowed : RteStatus)
    (config : SafechannelConfig)
    (fresh : Always move Fresh (linksHeld c) (linkEntries c (.opens netlinkOpen setupAllowed config))) :
    Orderly (step c (.opens netlinkOpen setupAllowed config)) ∧
      linkHolder.Keeps c (.opens netlinkOpen setupAllowed config) := by
  by_cases busy : c.call.isSome = true
  · exact busyOrderly orderly (by simp [step, busy]) (by simp [linkEntries, busy]) (by simp [linksLost, busy])
  have stepped : step c (.opens netlinkOpen setupAllowed config) = (safechannelOpen c netlinkOpen setupAllowed config).2.1 := by
    simp [step, busy]
  have entries : linkEntries c (.opens netlinkOpen setupAllowed config) =
      entriesOf (safechannelOpen c netlinkOpen setupAllowed config).2.2 := by
    simp [linkEntries, busy]
  have lost : linksLost c (.opens netlinkOpen setupAllowed config) = linksHeld c := by simp [linksLost, busy]
  rcases openCases c netlinkOpen setupAllowed config with ⟨handles, opened, runs, isOpen, idle, carries⟩ |
    ⟨handles, status, opened, bad, runs, closed, idle⟩
  · have taken : linkEntries c (.opens netlinkOpen setupAllowed config) = handles.map .taken := by
      rw [entries, runs]
      exact entriesTaken handles
    have after : step c (.opens netlinkOpen setupAllowed config) = opened := by rw [stepped, runs]
    rw [taken] at fresh
    obtain ⟨once, new⟩ := freshTaken.mp fresh
    have held : linksHeld opened = handles.toFinset := heldOpen isOpen carries
    refine ⟨?_, Holder.keepsOf ?_ (fun link => ?_) ?_⟩
    · rw [after]
      exact ⟨fun _ => ⟨handles, carries, once⟩, fun _ => idle⟩
    · rw [taken]
      exact ownTaken
    · rw [taken, takenOut, after, held, lost, List.mem_toFinset, or_comm]
    · rw [lost, after, held]
      exact fun link member again => new link (List.mem_toFinset.mp again) member
  · have both : linkEntries c (.opens netlinkOpen setupAllowed config) =
        handles.map .taken ++ handles.map .returned := by
      rw [entries, runs, entriesOf, List.filterMap_append]
      exact congrArg₂ _ (entriesTaken handles) (entriesReturned handles)
    have after : step c (.opens netlinkOpen setupAllowed config) = opened := by rw [stepped, runs]
    rw [both] at fresh
    obtain ⟨once, new⟩ := freshTaken.mp (alwaysAppend.mp fresh).1
    have held : linksHeld opened = ∅ := heldClosed closed
    refine ⟨?_, Holder.keepsOf ?_ (fun link => ?_) ?_⟩
    · rw [after]
      exact ⟨fun isOpen => absurd isOpen (by simp [closed]), fun _ => idle⟩
    · rw [both]
      exact alwaysAppend.mpr ⟨ownTaken, ownReturned once fun link member => (takenOut link).mpr (Or.inr member)⟩
    · rw [both, runAppend, returnedOut, takenOut, after, held, lost]
      constructor
      · rintro ⟨old | taken, left⟩
        · exact Or.inr old
        · exact absurd taken left
      · rintro (none_ | old)
        · exact absurd none_ (Finset.notMem_empty link)
        · exact ⟨Or.inl old, fun member => new link member old⟩
    · rw [after, held]
      exact fun link _ => Finset.notMem_empty link

theorem closeEntries {handles : List Nat} (isOpen : c.state.isOpen = true) (carries : Carries c handles) :
    ∃ closed calls, safechannelClose c = (.ok, closed, calls) ∧ closed.state.isOpen = false ∧ closed.call = c.call ∧
      entriesOf calls = handles.map .returned := by
  have opened : ¬c.state.isOpen = false := by rw [isOpen]; decide
  have each := (closeLinksAll (p := ⟨c.state, if c.state.type = .vitalVoted then
    (List.range c.state.linkCount.toNat).map .channelDestroyed ++ [.voterDestroyed] else []⟩) carries.holds carries.all.le).2
  rw [safechannelClose, rteSafechannelClose, if_neg opened]
  refine ⟨_, _, rfl, rfl, rfl, ?_⟩
  rw [each, entriesOf, List.filterMap_append, ← entriesOf, ← entriesOf, entriesReturned]
  split
  · rw [entriesDestroyed, List.nil_append]
  · rfl

theorem closeOrderly (orderly : Orderly c) : Orderly (step c .closes) ∧ linkHolder.Keeps c .closes := by
  by_cases busy : c.call.isSome = true
  · exact busyOrderly orderly (by simp [step, busy]) (by simp [linkEntries, busy]) rfl
  have idle : c.call = none := by simpa using busy
  cases isOpen : c.state.isOpen with
  | false =>
    have same : safechannelClose c = (.ok, c, []) := by
      rw [safechannelClose, closeOfClosed isOpen]
      simp [isOpen]
    exact busyOrderly orderly (by simp [step, busy, same]) (by simp [linkEntries, busy, same, entriesOf]) rfl
  | true =>
    obtain ⟨handles, carries, once⟩ := orderly.opened isOpen
    obtain ⟨closed, calls, runs, shut, call, entries⟩ := closeEntries isOpen carries
    have after : step c .closes = closed := by simp [step, busy, runs]
    have returned : linkEntries c .closes = handles.map .returned := by simp [linkEntries, busy, runs, entries]
    refine ⟨?_, Holder.keepsOf ?_ (fun link => ?_) ?_⟩
    · rw [after]
      exact ⟨fun again => absurd again (by simp [shut]), fun _ => call.trans idle⟩
    · rw [returned, heldOpen isOpen carries]
      exact ownReturned once fun link member => List.mem_toFinset.mpr member
    · rw [returned, returnedOut, after, heldOpen isOpen carries, heldClosed shut]
      simp [linksLost]
    · exact fun link none_ => absurd none_ (Finset.notMem_empty link)

theorem stepOrderly (orderly : Orderly c) (e : Event) (fresh : Always move Fresh (linksHeld c) (linkEntries c e)) :
    Orderly (step c e) ∧ linkHolder.Keeps c e := by
  cases e with
  | opens netlinkOpen setupAllowed config => exact openOrderly orderly netlinkOpen setupAllowed config fresh
  | closes => exact closeOrderly orderly
  | sends => exact trafficOrderly orderly trivial
  | receives => exact trafficOrderly orderly trivial
  | accesses => exact trafficOrderly orderly trivial

end Keeps

section Pool
variable {ι : Type} [DecidableEq ι] {pool : ι → Fitted} {events : List (ι × Event)}

structure Unopened (c : Fitted) : Prop where
  closed : c.state.isOpen = false
  idle : c.call = none

/- Whatever is called on the channels, in whatever order: each link that is used or closed is
open, no two channels have the same link, and the links that are open are those of the open
channels and those that were lost when an open channel was opened again. -/
theorem linksOwned (unopened : ∀ i, Unopened (pool i))
    (fresh : Always move Fresh ∅ (linkHolder.traceFrom pool events)) :
    Always move Own ∅ (linkHolder.traceFrom pool events) ∧
      (∀ i j, i ≠ j → ∀ link ∈ linksHeld (run linkHolder.poolStep pool events i),
        link ∉ linksHeld (run linkHolder.poolStep pool events j)) ∧
      ∀ link, link ∈ run move ∅ (linkHolder.traceFrom pool events) ↔
        (∃ i, link ∈ linksHeld (run linkHolder.poolStep pool events i)) ∨
          ∃ before i netlinkOpen setupAllowed config after,
            events = before ++ (i, .opens netlinkOpen setupAllowed config) :: after ∧
              (run linkHolder.poolStep pool before i).call = none ∧
              link ∈ linksHeld (run linkHolder.poolStep pool before i) := by
  have begun : ∀ i, Orderly (pool i) := fun i =>
    ⟨fun isOpen => absurd isOpen (by simp [(unopened i).closed]), fun _ => (unopened i).idle⟩
  have none_ : ∀ i, linkHolder.held (pool i) = ∅ := fun i => heldClosed (unopened i).closed
  obtain ⟨accounts, -⟩ := Holder.accountsRun begun none_ (fun _ e orderly new => (stepOrderly orderly e new).1)
    (fun _ e orderly new => (stepOrderly orderly e new).2) fresh
  refine ⟨accounts.own, accounts.apart, fun link => (accounts.out link).trans (or_congr Iff.rfl ?_)⟩
  constructor
  · rintro ⟨before, i, e, after, rfl, lost⟩
    cases e with
    | opens netlinkOpen setupAllowed config =>
      by_cases busy : (run linkHolder.poolStep pool before i).call.isSome = true
      · have empty : linksLost (run linkHolder.poolStep pool before i) (.opens netlinkOpen setupAllowed config) = ∅ := by
          simp [linksLost, busy]
        have member : link ∈ linksLost (run linkHolder.poolStep pool before i) (.opens netlinkOpen setupAllowed config) := lost
        rw [empty] at member
        exact absurd member (Finset.notMem_empty link)
      · have idle : (run linkHolder.poolStep pool before i).call = none := by simpa using busy
        have member : link ∈ linksLost (run linkHolder.poolStep pool before i) (.opens netlinkOpen setupAllowed config) := lost
        refine ⟨before, i, netlinkOpen, setupAllowed, config, after, rfl, idle, ?_⟩
        simpa [linksLost, idle] using member
    | _ => exact absurd lost (Finset.notMem_empty link)
  · rintro ⟨before, i, netlinkOpen, setupAllowed, config, after, rfl, idle, held⟩
    refine ⟨before, i, .opens netlinkOpen setupAllowed config, after, rfl, ?_⟩
    show link ∈ linksLost (run linkHolder.poolStep pool before i) (.opens netlinkOpen setupAllowed config)
    simpa [linksLost, idle] using held

def listening : SafechannelEndpoint := ⟨.listen, none, 5000⟩

def votedPair : SafechannelConfig where
  type := .vitalVoted
  dual := ⟨fun _ => listening, 2, 1, 2, 100, 100, false⟩
  vital := ⟨fun _ => listening, 2, 8, .twoOutOfTwo, 2, 100, false⟩

def numberedFrom (first : Nat) : Nat → NetlinkConfig → OpenAnswer := fun i _ => .opened (first + i)

def allUnopened : Nat → Fitted := fun _ => unopened

def reopened : List (Nat × Event) :=
  [(0, .opens (numberedFrom 10) .ok votedPair), (1, .opens (numberedFrom 20) .ok votedPair),
    (0, .sends [1] fun _ => .timeout), (0, .opens (numberedFrom 30) .ok votedPair), (0, .closes), (1, .closes)]

theorem reopenedLeavesOpen :
    Always move Own ∅ (linkHolder.traceFrom allUnopened reopened) ∧
      10 ∈ run move ∅ (linkHolder.traceFrom allUnopened reopened) := by
  have closed : ∀ i, Unopened (allUnopened i) := fun _ => ⟨rfl, rfl⟩
  have fresh : Always move Fresh ∅ (linkHolder.traceFrom allUnopened reopened) := by decide +kernel
  have owned := linksOwned closed fresh
  refine ⟨owned.1, (owned.2.2 10).mpr (Or.inr ⟨reopened.take 3, 0, _, _, _, reopened.drop 4, rfl, ?_, ?_⟩)⟩
  · decide +kernel
  · decide +kernel

end Pool

end PlatformRte.Safechannel
