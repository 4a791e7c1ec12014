import PlatformRte.ChannelService.FlowOwners

/-! Which flow a channel opens: that of its last set up, under the name given there as far as
the state holds it. A set up by id goes through the name of the channel with that id. -/
namespace PlatformRte.ChannelService
open Bytes Config Machine
open Safechannel (NetlinkRole NetlinkConfig)

theorem storedText {size : Nat} {text : Bytes} (fits : text.length < size) :
    cString (stored size text).toList = cString text := by
  have padded : (stored size text).toList = text ++ List.replicate (size - text.length) 0 := by
    refine List.ext_getElem (by simp; omega) fun i inside _ => ?_
    by_cases held : i < text.length
    · simp [stored, List.getElem_append_left held, held]
    · simp [stored, List.getElem_append_right (Nat.le_of_not_lt held), Nat.le_of_not_lt held]
  have none_ : cString (List.replicate (size - text.length) (0 : UInt8)) = [] := by
    cases size - text.length <;> simp [cString, List.replicate_succ]
  rw [padded, cString, List.takeWhile_append]
  split
  · rename_i whole
    rw [← cString, none_, List.append_nil, cString, (List.takeWhile_prefix _).eq_of_length whole]
  · rfl

structure Watched where
  state : FlowChannelState
  given : Option (Bytes × NetlinkConfig)

def givenBy (s : Watched) (e : Event) : Option (Bytes × NetlinkConfig) :=
  match setsUp e with
  | some (from_, channelName) => (resolve from_ channelName).toOption.map fun resolved => (channelName, resolved)
  | none => s.given

def watch (s : Watched) (e : Event) : Watched := ⟨step s.state e, givenBy s e⟩

def openingOf (channelName : Bytes) (resolved : NetlinkConfig) (timeoutMs : UInt32) : FlowConfig where
  name := cString (channelName.take (channelServiceNameSize - 1))
  oflags := oflagsForRole resolved.role
  messageSize := resolved.messageSize
  openTimeoutMs := if 0 < timeoutMs then timeoutMs else resolved.connectTimeoutMs

def timeoutOf : Event → UInt32
  | .read _ _ timeoutMs _ _ => timeoutMs
  | .send _ _ timeoutMs _ _ => timeoutMs
  | _ => 0

def IsAccess : Event → Prop
  | .read .. | .send .. => True
  | _ => False

def HoldsGiven (s : Watched) : Prop :=
  s.state.resolved = true → ∃ channelName resolved, s.given = some (channelName, resolved) ∧
    ∀ timeoutMs, openingConfig s.state timeoutMs = openingOf channelName resolved timeoutMs

section Given
variable {s : Watched}

theorem setupResolved (from_ : Resolution) (channelName : Bytes) :
    ((osadapterSetup from_ channelName).1.resolved = true ↔ ∃ resolved, resolve from_ channelName = .ok resolved) ∧
      ∀ resolved, resolve from_ channelName = .ok resolved → ∀ timeoutMs,
        openingConfig (osadapterSetup from_ channelName).1 timeoutMs = openingOf channelName resolved timeoutMs := by
  cases given : resolve from_ channelName with
  | error status => simp [osadapterSetup, given, clearedState]
  | ok resolved =>
    refine ⟨by simp [osadapterSetup, given], ?_⟩
    rintro _ ⟨⟩ timeoutMs
    have short : (channelName.take (channelServiceNameSize - 1)).length < channelServiceNameSize := by
      rw [List.length_take]
      exact lt_of_le_of_lt (Nat.min_le_left _ _) (by decide)
    simp [osadapterSetup, given, openingConfig, openingOf, storedText short]

structure KeepsSetUp (state after : FlowChannelState) : Prop where
  resolved : after.resolved = true → state.resolved = true
  config : ∀ timeoutMs, openingConfig after timeoutMs = openingConfig state timeoutMs

theorem openedCallConfig (osadapter : Option FlowOsadapter) (state : FlowChannelState) (dataSize : Nat)
    (timeoutMs : UInt32) (answer : FlowOpenAnswer) {call : Option Nat → RteStatus × List FlowCall}
    (noOpening : ∀ handle config, .opening config ∉ (call handle).2) :
    let done := openedCall osadapter state dataSize timeoutMs answer call
    KeepsSetUp state done.1 ∧ ∀ config, .opening config ∈ done.2.2 →
      state.opened = false ∧ state.resolved = true ∧ config = openingConfig state timeoutMs := by
  have same : KeepsSetUp state state := ⟨id, fun _ => rfl⟩
  dsimp only
  unfold openedCall
  split
  · exact ⟨same, by simp⟩
  split
  · exact ⟨same, by simp⟩
  rename_i resolved
  have setUp : state.resolved = true := by simpa using resolved
  rcases ensureOpenCases osadapter state timeoutMs answer with ⟨_, runs⟩ | ⟨shut, status, handle, calls, bad, quiet, runs⟩ |
    ⟨shut, handle, runs⟩
  · rw [runs]
    simp only [ne_eq, not_true_eq_false, if_false, List.nil_append]
    exact ⟨same, fun config opening => absurd opening (noOpening _ config)⟩
  · rw [runs]
    simp only [if_pos bad]
    refine ⟨⟨id, fun _ => rfl⟩, fun config opening => ?_⟩
    rcases quiet with rfl | rfl
    · cases opening
    · rw [List.mem_singleton, FlowCall.opening.injEq] at opening
      exact ⟨shut, setUp, opening⟩
  · rw [runs]
    simp only [ne_eq, not_true_eq_false, if_false]
    refine ⟨⟨id, fun _ => rfl⟩, fun config opening => ?_⟩
    rcases List.mem_append.mp opening with here | later
    · rcases List.mem_cons.mp here with first | handles
      · exact ⟨shut, setUp, FlowCall.opening.inj first⟩
      · cases handle <;> simp at handles
    · exact absurd later (noOpening _ config)

theorem flowCallNoOpening (osadapter : Option FlowOsadapter) (operation : FlowOsadapter → Bool) {call : Nat → FlowCall}
    (never : ∀ flow config, call flow ≠ .opening config) (answer : RteStatus) (handle : Option Nat) (config : FlowConfig) :
    .opening config ∉ (flowCall osadapter operation call handle answer).2 := by
  unfold flowCall
  split
  · simp
  split
  · simp
  split
  · simp
  · rename_i flow _ _ _
    simp [Ne.symm (never flow config)]

theorem servedConfig (state : FlowChannelState) {e : Event} (noSetup : ¬IsSetup e) :
    KeepsSetUp state (step state e) ∧ ∀ config, .opening config ∈ (perform state e).2 →
      IsAccess e ∧ state.opened = false ∧ state.resolved = true ∧ config = openingConfig state (timeoutOf e) := by
  have same : KeepsSetUp state state := ⟨id, fun _ => rfl⟩
  cases e with
  | setup => exact absurd trivial noSetup
  | setupById => exact absurd trivial noSetup
  | read under dataSize timeoutMs openAnswer answer =>
    simp only [step, perform, channelServiceRead]
    split
    · exact ⟨same, by simp⟩
    split
    · exact ⟨same, by simp⟩
    · have never (handle : Option Nat) (config : FlowConfig) :
          .opening config ∉ (flowReceive under.osadapter handle dataSize answer).2 := by
        rw [flowReceive]
        split
        · simp
        · exact flowCallNoOpening _ _ (by simp) _ _ _
      obtain ⟨kept, opens⟩ := openedCallConfig under.osadapter state dataSize timeoutMs openAnswer never
      exact ⟨kept, fun config opening => ⟨trivial, opens config opening⟩⟩
  | send under dataSize timeoutMs openAnswer answer =>
    simp only [step, perform, channelServiceSend]
    split
    · exact ⟨same, by simp⟩
    split
    · exact ⟨same, by simp⟩
    · have never (handle : Option Nat) (config : FlowConfig) :
          .opening config ∉ (flowSend under.osadapter handle dataSize answer).2 := by
        rw [flowSend]
        split
        · simp
        · exact flowCallNoOpening _ _ (by simp) _ _ _
      obtain ⟨kept, opens⟩ := openedCallConfig under.osadapter state dataSize timeoutMs openAnswer never
      exact ⟨kept, fun config opening => ⟨trivial, opens config opening⟩⟩
  | close under answer =>
    simp only [step, perform, channelServiceClose]
    split
    · exact ⟨same, by simp⟩
    unfold osadapterClose
    split
    · exact ⟨⟨by simp, fun _ => rfl⟩, by simp⟩
    · refine ⟨⟨by simp, fun _ => rfl⟩, fun config opening => ?_⟩
      exact absurd opening (flowCallNoOpening _ _ (by simp) _ _ _)

theorem holdsGivenStep (holds : HoldsGiven s) (e : Event) : HoldsGiven (watch s e) := by
  by_cases setup : IsSetup e
  · have performed := performSetup s.state setup
    cases sets : setsUp e with
    | none =>
      have still : watch s e = s := by simp [watch, step, performed, givenBy, sets]
      rwa [still]
    | some named =>
      obtain ⟨from_, channelName⟩ := named
      have after : (watch s e).state = (osadapterSetup from_ channelName).1 := by simp [watch, step, performed, sets]
      obtain ⟨resolvedIff, config⟩ := setupResolved from_ channelName
      intro resolved
      rw [after] at resolved
      obtain ⟨answer, given⟩ := resolvedIff.mp resolved
      refine ⟨channelName, answer, by simp [watch, givenBy, sets, given, Except.toOption], fun timeoutMs => ?_⟩
      rw [after]
      exact config answer given timeoutMs
  · obtain ⟨kept, -⟩ := servedConfig s.state setup
    have given : (watch s e).given = s.given := by
      cases e with
      | setup => exact absurd trivial setup
      | setupById => exact absurd trivial setup
      | _ => rfl
    intro resolved
    obtain ⟨channelName, answer, is, config⟩ := holds (kept.resolved resolved)
    exact ⟨channelName, answer, given.trans is, fun timeoutMs => (kept.config timeoutMs).trans (config timeoutMs)⟩

def OpensAsSetUp (s : Watched) (e : Event) : Prop :=
  ∀ config, .opening config ∈ (perform s.state e).2 →
    IsAccess e ∧ s.state.opened = false ∧ ∃ channelName resolved, s.given = some (channelName, resolved) ∧
      config = openingOf channelName resolved (timeoutOf e)

/- Whatever is called on a channel, and in whatever order, the flow it opens is that of its last
set up. -/
theorem openedAsSetUp {start : FlowChannelState} (unresolved : start.resolved = false) (events : List Event) :
    Always watch OpensAsSetUp ⟨start, none⟩ events := by
  have begun : HoldsGiven ⟨start, none⟩ := fun resolved => by
    have is : start.resolved = true := resolved
    rw [unresolved] at is
    cases is
  have any : Always watch (fun _ _ => True) ⟨start, none⟩ events := fun _ _ _ _ => trivial
  refine alwaysOfInvariant begun (fun m e holds _ => holdsGivenStep holds e) (fun m e holds _ config opening => ?_) any
  by_cases setup : IsSetup e
  · rw [performSetup m.state setup] at opening
    cases opening
  · obtain ⟨access, shut, resolved, is⟩ := (servedConfig m.state setup).2 config opening
    obtain ⟨channelName, answer, given, same⟩ := holds resolved
    exact ⟨access, shut, channelName, answer, given, is.trans (same _)⟩

def longNamed : List Event :=
  [.setup working .ok anyName (List.replicate 40 0x61), .read working 1 0 (.opened (some 7)) .ok]

theorem longNameCut :
    Always watch OpensAsSetUp ⟨clearedState, none⟩ longNamed ∧
      .opening ⟨List.replicate 31 0x61, flowOPublisher, 96, 500⟩ ∈
        (perform (run watch ⟨clearedState, none⟩ (longNamed.take 1)).state (.read working 1 0 (.opened (some 7)) .ok)).2 :=
  ⟨openedAsSetUp rfl longNamed, by decide +kernel⟩

end Given

section ById

theorem nameShort (channel : ChannelDef) : (nameOf channel).take maxNameLen = nameOf channel := by
  refine List.take_of_length_le ?_
  have whole : channel.name.toList.length = maxNameLen := by simp
  exact (List.takeWhile_prefix _).length_le.trans whole.le

theorem sameName (channel other : ChannelDef) :
    (nameOf other == (nameOf channel).take maxNameLen) = true ↔ nameOf other = nameOf channel := by
  rw [nameShort, beq_iff_eq]

theorem idPlace {config : RedundancyConfig} {channelId : UInt32} {channel : ChannelDef}
    (found : findChannelById config channelId = .ok channel) :
    ∃ later, channelsOf config =
        (channelsOf config).takeWhile (fun other => other.id != channelId) ++ channel :: later ∧ channel.id = channelId := by
  have place : (channelsOf config).find? (fun other => other.id == channelId) = some channel := by
    unfold findChannelById at found
    split at found
    · rename_i other is
      cases found
      exact is
    · cases found
  obtain ⟨isId, earlier, later, whole, others⟩ := List.find?_eq_some_iff_append.mp place
  have before : (channelsOf config).takeWhile (fun other => other.id != channelId) = earlier := by
    have differ : ∀ other ∈ earlier, (other.id != channelId) = true := fun other member => by
      simpa using others other member
    have same : (channel.id != channelId) = false := by simpa using isId
    rw [whole, List.takeWhile_append_of_pos differ, List.takeWhile_cons, same]
    simp
  exact ⟨later, before.symm ▸ whole, by simpa using isId⟩

theorem setUpByIdNamed {config : RedundancyConfig} {channelId : UInt32} {channel first : ChannelDef} {under : Under}
    (found : findChannelById config channelId = .ok channel) (registered : under.registered = true)
    (state : FlowChannelState) (byName : findChannelByName config (nameOf channel) = .ok first) :
    channelServiceSetupById under .ok ⟨none, some config⟩ state channelId =
      osadapterSetup ⟨some fun _ => .ok (resolvedFrom first), none⟩ (nameOf channel) := by
  have resolves : resolve ⟨none, some config⟩ (nameOf channel) = .ok (resolvedFrom first) := by
    simp [resolve, byName, Except.map]
  simp only [channelServiceSetupById, found, channelServiceSetup, registered, ne_eq, not_true_eq_false, Bool.not_true,
    Bool.false_eq_true, if_false]
  rw [osadapterSetup, osadapterSetup, resolves]
  rfl

/- A set up by id takes the settings of the first channel that has the name of the one with
that id. That is the channel with the id itself exactly where none before it has its name. -/
theorem setUpByIdIff {config : RedundancyConfig} {channelId : UInt32} {channel : ChannelDef}
    (found : findChannelById config channelId = .ok channel) {under : Under} (registered : under.registered = true)
    (state : FlowChannelState) :
    ∃ first, findChannelByName config (nameOf channel) = .ok first ∧ nameOf first = nameOf channel ∧
      channelServiceSetupById under .ok ⟨none, some config⟩ state channelId =
        osadapterSetup ⟨some fun _ => .ok (resolvedFrom first), none⟩ (nameOf channel) ∧
      (first = channel ↔
        ∀ other ∈ (channelsOf config).takeWhile (fun other => other.id != channelId), nameOf other ≠ nameOf channel) := by
  obtain ⟨later, whole, isId⟩ := idPlace found
  have sets {first : ChannelDef} (byName : findChannelByName config (nameOf channel) = .ok first) :=
    setUpByIdNamed found registered state byName
  generalize before : (channelsOf config).takeWhile (fun other => other.id != channelId) = earlier at whole ⊢
  have searched : (channelsOf config).find? (fun other => nameOf other == (nameOf channel).take maxNameLen) =
      (earlier.find? fun other => nameOf other == (nameOf channel).take maxNameLen).or (some channel) := by
    rw [whole, List.find?_append, List.find?_cons, (sameName channel channel).mpr rfl]
  cases early : earlier.find? fun other => nameOf other == (nameOf channel).take maxNameLen with
  | none =>
    rw [early, Option.none_or] at searched
    have byName : findChannelByName config (nameOf channel) = .ok channel := by simp [findChannelByName, searched]
    refine ⟨channel, byName, rfl, sets byName, iff_of_true rfl fun other member same => ?_⟩
    exact List.find?_eq_none.mp early other member ((sameName channel other).mpr same)
  | some first =>
    rw [early, Option.some_or] at searched
    have member := List.mem_of_find?_eq_some early
    have same : nameOf first = nameOf channel := by simpa [nameShort] using List.find?_some early
    have byName : findChannelByName config (nameOf channel) = .ok first := by simp [findChannelByName, searched]
    refine ⟨first, byName, same, sets byName, iff_of_false ?_ fun none_ => none_ first member same⟩
    rintro rfl
    have otherId := List.mem_takeWhile_imp (before.symm ▸ member)
    simp [isId] at otherId

def firstPeer : ChannelDef := { clearedChannel with id := 1, name := stored maxNameLen (ascii "peer"), messageSize := 96 }

def secondPeer : ChannelDef := { firstPeer with id := 2, role := .connect, messageSize := 32 }

def twoPeers : RedundancyConfig where
  topology := .twoOutOfTwo
  replicaCount := 2
  quorumSize := 2
  standbyMode := .hot
  roleCount := 0
  roles := Vector.replicate maxReplicas (stored maxRoleNameLen [])
  channelCount := 2
  channels := Vector.ofFn fun i => if i.val = 0 then firstPeer else if i.val = 1 then secondPeer else clearedChannel

theorem secondPeerNotSetUp : nameOf firstPeer = nameOf secondPeer ∧
    channelServiceSetupById working .ok ⟨none, some twoPeers⟩ clearedState 2 =
      osadapterSetup ⟨some fun _ => .ok (resolvedFrom firstPeer), none⟩ (nameOf secondPeer) ∧ firstPeer ≠ secondPeer := by
  have found : findChannelById twoPeers 2 = .ok secondPeer := by decide +kernel
  have byName : findChannelByName twoPeers (nameOf secondPeer) = .ok firstPeer := by decide +kernel
  have registered : working.registered = true := rfl
  obtain ⟨first, is, same, sets, own⟩ := setUpByIdIff found registered clearedState
  cases byName.symm.trans is
  exact ⟨same, sets, fun is => own.mp is firstPeer (by decide +kernel) rfl⟩

end ById

end PlatformRte.ChannelService
