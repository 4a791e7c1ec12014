import PlatformRte.Safechannel.Open

/-! Opening a safe channel keeps every link it has opened, or gives every one of them back. -/
namespace PlatformRte.Safechannel

def opensOf (calls : List ServiceCall) : List Nat :=
  calls.filterMap fun call =>
    match call with
    | .opened handle => some handle
    | _ => none

def closesOf (calls : List ServiceCall) : List Nat :=
  calls.filterMap fun call =>
    match call with
    | .closed handle => some handle
    | _ => none

section Ledger

@[simp] theorem opensAppend (first second : List ServiceCall) :
    opensOf (first ++ second) = opensOf first ++ opensOf second :=
  List.filterMap_append

@[simp] theorem closesAppend (first second : List ServiceCall) :
    closesOf (first ++ second) = closesOf first ++ closesOf second :=
  List.filterMap_append

@[simp] theorem opensClosed (handles : List Nat) : opensOf (handles.map .closed) = [] := by
  induction handles with
  | nil => rfl
  | cons handle rest ih => exact ih

@[simp] theorem closesClosed (handles : List Nat) : closesOf (handles.map .closed) = handles := by
  induction handles with
  | nil => rfl
  | cons handle rest ih => exact congrArg (List.cons handle) ih

end Ledger

structure Held (p : Progress) (handles : List Nat) : Prop where
  holds : ∀ j, p.channel.linkHandles j = handles[j]?
  calls : p.calls = handles.map .opened

structure GivenBack (p : Progress) : Prop where
  none_ : ∀ j, p.channel.linkHandles j = none
  calls : ∃ handles : List Nat, p.calls = handles.map .opened ++ handles.map .closed

inductive Ended : RteStatus × Progress → Prop
  | held (p : Progress) (handles : List Nat) (all : handles.length = p.channel.linkCount.toNat) (held : Held p handles) :
      Ended (.ok, p)
  | givenBack (status : RteStatus) (bad : status ≠ .ok) (p : Progress) (given : GivenBack p) : Ended (status, p)

section Closing
variable {p : Progress} {handles : List Nat}

theorem closeLinksPart (holds : ∀ j, p.channel.linkHandles j = handles[j]?) (count : Nat) :
    (∀ j, (safechannelCloseLinks p count).channel.linkHandles j = if j < count then none else handles[j]?) ∧
      (safechannelCloseLinks p count).calls = p.calls ++ (handles.take count).map .closed ∧
      (safechannelCloseLinks p count).channel.linkCount = p.channel.linkCount := by
  induction count with
  | zero =>
    refine ⟨fun j => ?_, by simp [safechannelCloseLinks], rfl⟩
    rw [if_neg (Nat.not_lt_zero _)]
    exact holds j
  | succ count ih =>
    obtain ⟨before, calls, linkCount⟩ := ih
    have step : safechannelCloseLinks p (count + 1) = closeLink (safechannelCloseLinks p count) count := by
      rw [safechannelCloseLinks, List.range_succ, List.foldl_append]
      rfl
    have here := before count
    rw [if_neg (Nat.lt_irrefl _)] at here
    rw [step, closeLink, here]
    cases link : handles[count]? with
    | none =>
      have past : handles.length ≤ count := List.getElem?_eq_none_iff.mp link
      refine ⟨fun j => ?_, ?_, linkCount⟩
      · rw [before]
        by_cases less : j < count
        · rw [if_pos less, if_pos (Nat.lt_succ_of_lt less)]
        · rw [if_neg less, List.getElem?_eq_none (le_trans past (Nat.le_of_not_lt less)), ite_self]
      · rw [calls, List.take_of_length_le past, List.take_of_length_le (Nat.le_succ_of_le past)]
    | some handle =>
      refine ⟨fun j => ?_, ?_, linkCount⟩
      · dsimp only
        by_cases same : j = count
        · rw [same, Function.update_self, if_pos (Nat.lt_succ_self _)]
        · rw [Function.update_of_ne same, before]
          by_cases less : j < count
          · rw [if_pos less, if_pos (Nat.lt_succ_of_lt less)]
          · rw [if_neg less, if_neg (by omega)]
      · dsimp only
        rw [calls, List.take_add_one, link, List.append_assoc, List.map_append]
        rfl

theorem closeLinksAll (holds : ∀ j, p.channel.linkHandles j = handles[j]?) {count : Nat} (enough : handles.length ≤ count) :
    (∀ j, (safechannelCloseLinks p count).channel.linkHandles j = none) ∧
      (safechannelCloseLinks p count).calls = p.calls ++ handles.map .closed := by
  obtain ⟨left, calls, _⟩ := closeLinksPart holds count
  refine ⟨fun j => ?_, by rw [calls, List.take_of_length_le enough]⟩
  rw [left]
  by_cases less : j < count
  · rw [if_pos less]
  · rw [if_neg less, List.getElem?_eq_none (by omega)]

theorem Held.givesBack (held : Held p handles) {count : Nat} (enough : handles.length ≤ count) :
    GivenBack (safechannelCloseLinks p count) := by
  obtain ⟨none_, calls⟩ := closeLinksAll held.holds enough
  exact ⟨none_, handles, by rw [calls, held.calls]⟩

theorem Held.withCount (held : Held p handles) (linkCount : UInt32) :
    Held { p with channel := { p.channel with linkCount } } handles :=
  ⟨held.holds, held.calls⟩

theorem closeAllEnds (held : Held p handles) (all : handles.length = p.channel.linkCount.toNat) {status : RteStatus}
    (bad : status ≠ .ok) : Ended (closeAll p status) := by
  obtain ⟨none_, calls⟩ := held.givesBack all.le
  exact .givenBack status bad _ ⟨none_, calls⟩

end Closing

section Opening
variable {services : Services} {p : Progress} {handles : List Nat}

theorem openLinksEnd (endpoints : Nat → SafechannelEndpoint) (messageSize : UInt64) (connectTimeoutMs : UInt32)
    (left : Nat) (held : Held p handles) :
    (∃ all q, openLinks services endpoints messageSize connectTimeoutMs left handles.length p = (.ok, q) ∧
        all.length = handles.length + left ∧ Held q all) ∨
      ∃ status q, openLinks services endpoints messageSize connectTimeoutMs left handles.length p = (status, q) ∧
        status ≠ .ok ∧ GivenBack q := by
  induction left generalizing p handles with
  | zero => exact Or.inl ⟨handles, p, rfl, rfl, held⟩
  | succ left ih =>
    rw [openLinks]
    cases services.netlinkOpen handles.length (openConfig (endpoints handles.length) messageSize connectTimeoutMs) with
    | failed status bad => exact Or.inr ⟨status, _, rfl, bad, held.givesBack le_rfl⟩
    | opened handle =>
      have longer : Held ⟨{ p.channel with
          linkHandles := Function.update p.channel.linkHandles handles.length (some handle) },
          p.calls ++ [.opened handle]⟩ (handles ++ [handle]) := by
        refine ⟨fun j => ?_, by rw [held.calls, List.map_append]; rfl⟩
        dsimp only
        by_cases same : j = handles.length
        · rw [same, Function.update_self, List.getElem?_concat_length]
        · rw [Function.update_of_ne same, held.holds]
          rcases Nat.lt_or_gt_of_ne same with less | more
          · rw [List.getElem?_append_left less]
          · rw [List.getElem?_eq_none more.le, List.getElem?_eq_none (by rw [List.length_append]; exact more)]
      have size : (handles ++ [handle]).length = handles.length + 1 := by simp
      have rest := ih longer
      rw [size] at rest
      dsimp only
      rcases rest with ⟨all, q, runs, long, heldNow⟩ | failure
      · exact Or.inl ⟨all, q, runs, by omega, heldNow⟩
      · exact Or.inr failure

theorem registerEnds (left i : Nat) (held : Held p handles) (all : handles.length = p.channel.linkCount.toNat) :
    Ended (registerChannels services left i p) := by
  induction left generalizing i with
  | zero => exact .held p handles all held
  | succ left ih =>
    rw [registerChannels]
    generalize (if services.channelInit i = .ok then services.voterRegisterChannel i else services.channelInit i) = status
    by_cases bad : status ≠ .ok
    · rw [if_pos bad]
      exact closeAllEnds held all bad
    · rw [if_neg bad]
      exact ih (i + 1)

def freshChannel (type : SafechannelType) : Progress := ⟨⟨type, false, fun _ => none, 0⟩, []⟩

theorem freshHeld (type : SafechannelType) : Held (freshChannel type) [] := ⟨fun _ => rfl, rfl⟩

theorem freshGivenBack (type : SafechannelType) : GivenBack (freshChannel type) := ⟨fun _ => rfl, [], rfl⟩

theorem refusedEnds (type : SafechannelType) : Ended (.invalidParam, freshChannel type) :=
  .givenBack _ (by decide) _ (freshGivenBack type)

theorem afterOpening (endpoints : Nat → SafechannelEndpoint) (messageSize : UInt64) (connectTimeoutMs : UInt32)
    (count : Nat) (type : SafechannelType) {next : Progress → RteStatus × Progress}
    (goesOn : ∀ q all, Held q all → all.length = count → Ended (next q)) :
    Ended (match openLinks services endpoints messageSize connectTimeoutMs count 0 (freshChannel type) with
      | (.ok, q) => next q
      | (status, q) => (status, q)) := by
  have ends := @openLinksEnd services _ _ endpoints messageSize connectTimeoutMs count (freshHeld type)
  rw [List.length_nil] at ends
  rcases ends with ⟨all, q, runs, long, held⟩ | ⟨status, q, runs, bad, given⟩
  · rw [runs]
    exact goesOn q all held (long.trans (Nat.zero_add _))
  · rw [runs]
    cases status with
    | ok => exact absurd rfl bad
    | _ => exact .givenBack _ bad q given

theorem openDualEnds (cfg : SafechannelDualConfig) (type : SafechannelType) :
    Ended (safechannelOpenDual services cfg (freshChannel type)) := by
  rw [safechannelOpenDual]
  split
  · exact refusedEnds type
  split
  · exact refusedEnds type
  refine afterOpening cfg.endpoints vitalMessageSize cfg.connectTimeoutMs cfg.linkCount.toNat type fun q all held count => ?_
  dsimp only
  split
  · exact closeAllEnds (held.withCount cfg.linkCount) count (by assumption)
  · exact .held _ all count (held.withCount cfg.linkCount)

theorem openVitalEnds (cfg : SafechannelVitalConfig) (type : SafechannelType) :
    Ended (safechannelOpenVital services cfg (freshChannel type)) := by
  rw [safechannelOpenVital]
  split
  · exact refusedEnds type
  split
  · exact refusedEnds type
  refine afterOpening cfg.endpoints cfg.messageSize cfg.connectTimeoutMs cfg.linkCount.toNat type fun q all held count => ?_
  dsimp only
  split
  · exact closeAllEnds (held.withCount cfg.linkCount) count (by assumption)
  · exact registerEnds _ _ (held.withCount cfg.linkCount) count

theorem openEnds (services : Services) (channel : RteSafechannel) (config : SafechannelConfig) :
    ∃ status p, Ended (status, p) ∧ rteSafechannelOpen services (some channel) (some config) =
      (status, some { p.channel with isOpen := decide (status = .ok) }, p.calls) := by
  rw [rteSafechannelOpen]
  cases config.type with
  | dualRedundant => exact ⟨_, _, openDualEnds config.dual .dualRedundant, rfl⟩
  | vitalVoted => exact ⟨_, _, openVitalEnds config.vital .vitalVoted, rfl⟩
  | other value => exact ⟨_, _, refusedEnds (.other value), rfl⟩

end Opening

theorem destroysNothing (count : Nat) : opensOf ((List.range count).map .channelDestroyed ++ [.voterDestroyed]) = [] ∧
    closesOf ((List.range count).map .channelDestroyed ++ [.voterDestroyed]) = [] := by
  refine ⟨List.filterMap_eq_nil_iff.mpr ?_, List.filterMap_eq_nil_iff.mpr ?_⟩
  all_goals
    intro call inside
    rcases List.mem_append.mp inside with channel | voter
    · obtain ⟨i, _, rfl⟩ := List.mem_map.mp channel
      rfl
    · rw [List.mem_singleton.mp voter]

theorem closeCloses {channel : RteSafechannel} (isOpen : channel.isOpen = true) {handles : List Nat}
    (holds : ∀ j, channel.linkHandles j = handles[j]?) (all : handles.length = channel.linkCount.toNat) :
    ∃ closed calls, rteSafechannelClose (some channel) = (.ok, some closed, calls) ∧ closed.isOpen = false ∧
      (∀ j, closed.linkHandles j = none) ∧ opensOf calls = [] ∧ closesOf calls = handles := by
  have opened : ¬channel.isOpen = false := by rw [isOpen]; decide
  obtain ⟨noOpens, noCloses⟩ := destroysNothing channel.linkCount.toNat
  rw [rteSafechannelClose, if_neg opened]
  refine ⟨_, _, rfl, rfl, ?_, ?_, ?_⟩
  · exact (closeLinksAll holds all.le).1
  · rw [(closeLinksAll holds all.le).2, opensAppend, opensClosed, List.append_nil]
    split
    · exact noOpens
    · rfl
  · rw [(closeLinksAll holds all.le).2, closesAppend, closesClosed]
    split
    · rw [noCloses, List.nil_append]
    · rfl

theorem closeOfClosed {channel : RteSafechannel} (closed : channel.isOpen = false) :
    rteSafechannelClose (some channel) = (.ok, some channel, []) := by
  rw [rteSafechannelClose, if_pos closed]

/- All or nothing: an opening that fails has closed each link it opened and leaves nothing to
close; after one that succeeds, closing closes each of them, and a second time none. -/
theorem safechannelAllOrNothing (services : Services) (channel : RteSafechannel) (config : SafechannelConfig) :
    ∃ status opened calls,
      rteSafechannelOpen services (some channel) (some config) = (status, some opened, calls) ∧
      (status ≠ .ok →
        (∃ handles : List Nat, calls = handles.map .opened ++ handles.map .closed) ∧
        (∀ j, opened.linkHandles j = none) ∧
        rteSafechannelClose (some opened) = (.ok, some opened, [])) ∧
      (status = .ok →
        ∃ (handles : List Nat) (closed : RteSafechannel) (closing : List ServiceCall),
          calls = handles.map .opened ∧
          rteSafechannelClose (some opened) = (.ok, some closed, closing) ∧
          opensOf closing = [] ∧ closesOf closing = handles ∧
          (∀ j, closed.linkHandles j = none) ∧
          rteSafechannelClose (some closed) = (.ok, some closed, [])) := by
  obtain ⟨status, p, ended, runs⟩ := openEnds services channel config
  refine ⟨status, _, _, runs, ?_, ?_⟩
  · intro bad
    cases ended with
    | held => exact absurd rfl bad
    | givenBack _ _ _ given => exact ⟨given.calls, given.none_, closeOfClosed (decide_eq_false bad)⟩
  · rintro rfl
    cases ended with
    | held _ handles all held =>
      have opened : { p.channel with isOpen := decide (RteStatus.ok = RteStatus.ok) }.isOpen = true := rfl
      obtain ⟨closed, closing, closes, isClosed, none_, noOpens, each⟩ := closeCloses opened held.holds all
      exact ⟨handles, closed, closing, held.calls, closes, noOpens, each, none_, closeOfClosed isClosed⟩
    | givenBack _ bad => exact absurd rfl bad

end PlatformRte.Safechannel
