import PlatformRte.SiteRole.Received

/-! Payloads of another length than the configured frame. What is shorter is written over the
front of the receive buffer and read together with what an earlier frame left behind it. -/
namespace PlatformRte.SiteRole
open Bytes PlatformRte.Dual PlatformRte.Dual.Channel

def Ignored (s : Station) (answer : Answer) : Prop :=
  ∀ accepted, ∃ after received, s.receive answer accepted = some (after, received) ∧
    receivedState after.rs received = none ∧ Unlearned s.rs (receiveFrame after.rs received).1

theorem shortRead {s : Station} {answer : Answer} {payload : Bytes} (room : frameOverhead < s.rs.cfg.frameSize)
    (byte : s.rs.cfg.frameSize ≤ 255) (single : s.wire.channel.linkCount = 1)
    (waits : presented s.wire.channel s.wire.manager answer = some payload)
    (short : payload.length ≤ s.rs.cfg.frameSize) (accepted : Bool) :
    ∃ after received, s.receive answer accepted = some (after, received) ∧ receivedState after.rs received =
      some (frameState s.rs.cfg.frameSize (s.rs.rxBuf.overwrite payload),
        frameValid s.rs.cfg.frameSize (s.rs.rxBuf.overwrite payload)) := by
  obtain ⟨after, received, done, same, taken⟩ := Station.receivePresented room byte single waits accepted
  rw [if_neg (Nat.not_lt.mpr short)] at taken
  have inside : frameStateOffset ≤ s.rs.cfg.frameSize := Nat.le_of_lt (Nat.lt_trans (by decide) room)
  refine ⟨after, received, done, ?_⟩
  rw [taken, same, receivedState, if_pos ⟨rfl, inside⟩]
  simp only [buffered, List.take_of_length_le short]

theorem ignoredIff {s : Station} {answer : Answer} {payload : Bytes} (room : frameOverhead < s.rs.cfg.frameSize)
    (byte : s.rs.cfg.frameSize ≤ 255) (single : s.wire.channel.linkCount = 1)
    (waits : presented s.wire.channel s.wire.manager answer = some payload) :
    Ignored s answer ↔ s.rs.cfg.frameSize < payload.length := by
  constructor
  · intro ignored
    by_contra notLong
    obtain ⟨after, received, done, uncalled, _⟩ := ignored true
    obtain ⟨after', received', done', called⟩ := shortRead room byte single waits (Nat.not_lt.mp notLong) true
    rw [done, Option.some_inj, Prod.mk.injEq] at done'
    rw [← done'.1, ← done'.2, uncalled] at called
    cases called
  · intro long accepted
    obtain ⟨after, received, done, same, taken⟩ := Station.receivePresented room byte single waits accepted
    rw [if_pos long] at taken
    have uncalled : receivedState after.rs received = none := by
      rw [taken, receivedState, if_neg fun ok => by cases ok.1]
    refine ⟨after, received, done, uncalled, ?_⟩
    rw [← same]
    exact uncalledUnlearned uncalled

/- A payload of another length is ignored exactly when it is not shorter than the frame. -/
theorem wrongLengthIgnoredIff {s : Station} {answer : Answer} {payload : Bytes}
    (room : frameOverhead < s.rs.cfg.frameSize) (byte : s.rs.cfg.frameSize ≤ 255)
    (single : s.wire.channel.linkCount = 1) (waits : presented s.wire.channel s.wire.manager answer = some payload) :
    (payload.length ≠ s.rs.cfg.frameSize → Ignored s answer) ↔ s.rs.cfg.frameSize ≤ payload.length := by
  rw [ignoredIff room byte single waits]
  omega

def afterSnapshot (payload : Bytes) : Station :=
  ⟨decodeFrame (buffered (initialState (smallSite false)) (encodeFrame 8 false true 57 true [7])), 10,
    ⟨{ freshChannel 2 1 1 Nat.one_pos oneLinkFew with pendingData := some payload }, readyManager⟩⟩

theorem leftoverRead : ∃ after received, (afterSnapshot [1]).receive quiet true = some (after, received) ∧
    receivedState after.rs received = some ([7], true) :=
  have waits : presented (afterSnapshot [1]).wire.channel (afterSnapshot [1]).wire.manager quiet = some [1] := rfl
  have room : frameOverhead < (afterSnapshot [1]).rs.cfg.frameSize := by decide
  shortRead room (by decide) rfl waits (by decide) true

theorem leftoverDecoded : ¬∀ (s : Station) (answer : Answer) (payload : Bytes),
    frameOverhead < s.rs.cfg.frameSize → s.rs.cfg.frameSize ≤ 255 → s.wire.channel.linkCount = 1 →
      presented s.wire.channel s.wire.manager answer = some payload → payload.length ≠ s.rs.cfg.frameSize →
      Ignored s answer := by
  intro claimed
  obtain ⟨after, received, done, uncalled, _⟩ :=
    claimed (afterSnapshot [1]) quiet [1] (by decide) (by decide) rfl rfl (by decide) true
  obtain ⟨after', received', done', called⟩ := leftoverRead
  rw [done, Option.some_inj, Prod.mk.injEq] at done'
  rw [← done'.1, ← done'.2, uncalled] at called
  cases called

def nineBytes : Bytes := [1, 0, 0, 0, 0, 0, 9, 0xA5, 0]

theorem nineBytesIgnored : (nineBytes.length ≠ 8 → Ignored (afterSnapshot nineBytes) quiet) ↔ 8 ≤ nineBytes.length :=
  have room : frameOverhead < (afterSnapshot nineBytes).rs.cfg.frameSize := by decide
  wrongLengthIgnoredIff room (by decide) rfl rfl

end PlatformRte.SiteRole
