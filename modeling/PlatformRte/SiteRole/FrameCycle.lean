import PlatformRte.SiteRole.LinkCounts
import PlatformRte.Lib.Machine

/-! The cycle number in the frames of a channel, against the number of the call that sends
them, over the runs of an application that renumbers its cycle on a promotion. -/
namespace PlatformRte.SiteRole.FrameCycle
open Machine RteSiteRole

structure Application where
  rs : RteSiteRole
  cycle : UInt32

inductive AppEvent where
  | tick
  | call (call : SiteRoleCall)
  deriving DecidableEq, Repr

def passed : SiteRoleCall → Option UInt32
  | .execute cycle _ _ => some cycle
  | .serviceLink cycle _ => some cycle
  | .syncStandby cycle _ _ _ => some cycle
  | .onTakeoverConfirm cycle => some cycle
  | .onTakeoverToken cycle _ _ => some cycle
  | .noteLostContact => none
  | .flushFaulted _ _ => none
  | .checkSibling _ _ => none
  | .shutdown => none

/- The application goes on from the snapshot of a change that was reported by the call. -/
def continued (cycle : UInt32) (before after : List RoleEvent) : UInt32 :=
  match after with
  | .changed _ change :: _ =>
      if before.length < after.length && change.applyState && change.snapshotValid then change.snapshotCycle else cycle
  | _ => cycle

def appStep (a : Application) : AppEvent → Application
  | .tick => { a with cycle := a.cycle + 1 }
  | .call call =>
      let rs := siteRoleCall a.rs call
      ⟨rs, continued a.cycle a.rs.roleLog rs.roleLog⟩

def PassesCurrent (a : Application) : AppEvent → Prop
  | .tick => True
  | .call call => ∀ cycle ∈ passed call, cycle = a.cycle

def sentBy (rs : RteSiteRole) : SiteRoleCall → Option Bytes
  | .execute cycle own io => (siteRoleExecuteBegin rs cycle own io).2
  | .syncStandby cycle own region status => (siteRoleSyncStandby rs cycle own region status).2
  | .flushFaulted singleMode region => siteRoleFlushFaulted rs singleMode region
  | _ => none

def CarriesPassed (a : Application) : AppEvent → Prop
  | .tick => True
  | .call call => ∀ frame, sentBy a.rs call = some frame → frameValid a.rs.cfg.frameSize frame = true →
      passed call = some (frameCycle frame)

def syncSends (rs : RteSiteRole) (cycle : UInt32) : Bool :=
  standbySyncDue rs.cfg.standbySync rs.online rs.link
    (rs.standbyHealthy && !(rs.cfg.standbySync && rs.online && !rs.link)) cycle rs.standbyLastTryCycle

/- A sync that sends is given the number of the last execute or service of the link. -/
def InStep (a : Application) : AppEvent → Prop
  | .call (.syncStandby cycle _ _ _) => syncSends a.rs cycle = true → cycle = a.rs.cycle
  | _ => True

instance : ∀ a event, Decidable (PassesCurrent a event)
  | _, .tick => isTrue True.intro
  | a, .call call => decidable_of_iff ((passed call).all fun cycle => cycle == a.cycle) (by
      cases given : passed call <;> simp [PassesCurrent, given])

theorem syncSent (rs : RteSiteRole) (cycle : UInt32) (own : SiteRoleLocal) (region : Bytes) (status : RteStatus) :
    (siteRoleSyncStandby rs cycle own region status).2 =
      if syncSends rs cycle then
        some (encodeFrame rs.cfg.frameSize own.faulted own.singleMode rs.cycle rs.online region)
      else none := by
  unfold siteRoleSyncStandby syncSends
  dsimp only [takeLocal]
  split <;> rfl

theorem syncOnline {rs : RteSiteRole} {cycle : UInt32} (sends : syncSends rs cycle = true) : rs.online = true := by
  unfold syncSends standbySyncDue at sends
  split at sends
  · rename_i due
    simp only [Bool.and_eq_true] at due
    exact due.1.2
  · cases sends

theorem liveCycle {frameSize : Nat} {faulted singleMode live : Bool} {cycle : UInt32} {region : Bytes}
    (room : frameOverhead < frameSize)
    (valid : frameValid frameSize (encodeFrame frameSize faulted singleMode cycle live region) = true) :
    live = true ∧ frameCycle (encodeFrame frameSize faulted singleMode cycle live region) = cycle := by
  have marked := encodedValid faulted singleMode cycle live region [] room
  rw [List.append_nil, valid] at marked
  subst marked
  have read := @encodedCycle frameSize faulted singleMode cycle region []
  rw [List.append_nil] at read
  exact ⟨rfl, read⟩

theorem carriesIff {a : Application} (room : frameOverhead < a.rs.cfg.frameSize) (event : AppEvent) :
    CarriesPassed a event ↔ InStep a event := by
  have silent {call : SiteRoleCall} (nothing : sentBy a.rs call = none) : CarriesPassed a (.call call) :=
    fun frame sent => by rw [nothing] at sent; cases sent
  cases event with
  | tick => exact Iff.rfl
  | call call =>
    cases call with
    | execute cycle own io =>
      refine iff_of_true (fun frame sent valid => ?_) trivial
      cases up : linkUp a.rs io
      · have closed := (beginClosed cycle own up).1
        rw [sentBy, closed] at sent
        cases sent
      · have opened := (beginOpen cycle own up).1
        rw [sentBy, opened] at sent
        cases sent
        rw [(liveCycle room valid).2]
        rfl
    | syncStandby cycle own region status =>
      have frames := syncSent a.rs cycle own region status
      cases sends : syncSends a.rs cycle
      · rw [sends] at frames
        exact iff_of_true (silent frames) fun due => by rw [sends] at due; cases due
      · rw [sends, if_pos rfl] at frames
        have live : frameValid a.rs.cfg.frameSize
            (encodeFrame a.rs.cfg.frameSize own.faulted own.singleMode a.rs.cycle a.rs.online region) = true := by
          have marked := encodedValid own.faulted own.singleMode a.rs.cycle a.rs.online region [] room
          rw [List.append_nil, syncOnline sends] at marked
          rw [syncOnline sends, marked]
        have carried := (liveCycle room live).2
        constructor
        · intro carries _
          have given := carries _ frames live
          rw [carried] at given
          exact Option.some.inj given
        · intro inStep frame sent _
          rw [sentBy, frames] at sent
          cases sent
          rw [carried, ← inStep sends]
          rfl
    | flushFaulted singleMode region =>
      refine iff_of_true (fun frame sent valid => ?_) trivial
      rw [sentBy, siteRoleFlushFaulted] at sent
      split at sent
      · cases sent
        exact absurd (liveCycle room valid).1 Bool.false_ne_true
      · cases sent
    | serviceLink => exact iff_of_true (silent rfl) trivial
    | onTakeoverConfirm => exact iff_of_true (silent rfl) trivial
    | onTakeoverToken => exact iff_of_true (silent rfl) trivial
    | noteLostContact => exact iff_of_true (silent rfl) trivial
    | checkSibling => exact iff_of_true (silent rfl) trivial
    | shutdown => exact iff_of_true (silent rfl) trivial

theorem appCfg (a : Application) (event : AppEvent) : (appStep a event).rs.cfg = a.rs.cfg := by
  cases event with
  | tick => rfl
  | call call => exact callCfg a.rs call

/- Over whole runs: every live frame carries the number of its call exactly when every sync
that sends is in step with the last execute or service. -/
theorem frameCycleIff (a : Application) (setUp : SetUp a.rs) (events : List AppEvent) :
    Always appStep CarriesPassed a events ↔ Always appStep InStep a events := by
  have room : frameOverhead < a.rs.cfg.frameSize := by
    obtain ⟨_, _, _, _, _, room, ⟨_, equal⟩, _⟩ := setUpSame setUp
    rw [equal]
    exact room
  have keep {P : Application → AppEvent → Prop} (m : Application) (e : AppEvent)
      (room : frameOverhead < m.rs.cfg.frameSize) (_ : P m e) : frameOverhead < (appStep m e).rs.cfg.frameSize := by
    rw [appCfg]
    exact room
  constructor
  · exact alwaysOfInvariant room keep fun m e room carries => (carriesIff room e).mp carries
  · exact alwaysOfInvariant room keep fun m e room inStep => (carriesIff room e).mpr inStep

def takenOver : List AppEvent :=
  [.call (.execute 10 healthy (hearing (encodeFrame 8 false false 57 true [42]))), .tick,
    .call (.execute 11 healthy (hearing (encodeFrame 8 true false 0 false []))),
    .call (.syncStandby 57 healthy [42] .ok)]

def freshAt (cycle : UInt32) : Application := ⟨initialState (smallSite true), cycle⟩

theorem oldCycleSent : ¬∀ a, SetUp a.rs → ∀ events, Always appStep PassesCurrent a events →
    Always appStep CarriesPassed a events := by
  intro claimed
  have current : Always appStep PassesCurrent (freshAt 10) takenOver := by decide
  have carries := claimed (freshAt 10) (smallSiteReady true) takenOver current
  have last := carries (takenOver.take 3) (.call (.syncStandby 57 healthy [42] .ok)) [] rfl
  have inStep := (carriesIff (by decide) _).mp last
  exact absurd (inStep (by decide)) (by decide)

def synced : List AppEvent :=
  takenOver.take 3 ++ [.tick, .call (.execute 58 healthy (hearing (encodeFrame 8 true false 0 false []))),
    .call (.syncStandby 58 healthy [42] .ok)]

theorem firstSnapshotSent :
    (Always appStep CarriesPassed (freshAt 10) synced ↔ Always appStep InStep (freshAt 10) synced) ∧
      ∃ frame, sentBy (run appStep (freshAt 10) (synced.take 5)).rs (.syncStandby 58 healthy [42] .ok) = some frame ∧
        frameValid 8 frame = true ∧ frameCycle frame = 58 :=
  ⟨frameCycleIff _ (smallSiteReady true) _, [0, 0, 58, 0, 0, 0, 42, 165], by decide, by decide, by decide⟩

end PlatformRte.SiteRole.FrameCycle
