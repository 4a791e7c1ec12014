import PlatformRte.SiteRole.Steady

/-! What a read of the link hands on: the payload that it comes upon, and the state region
and the mark that receive_state is called with. -/
namespace PlatformRte.SiteRole
open Bytes PlatformRte.Dual PlatformRte.Dual.Channel

def receivedState (rs : RteSiteRole) (answer : ReceiveAnswer) : Option (Bytes × Bool) :=
  if answer.status = .ok ∧ frameStateOffset ≤ rs.cfg.frameSize then
    let buffer := (buffered rs answer.payload).rxBuf
    some (frameState rs.cfg.frameSize buffer, frameValid rs.cfg.frameSize buffer)
  else none

def Unlearned (before after : RteSiteRole) : Prop := ∃ buffer, after = { before with rxBuf := buffer }

theorem refusedUnlearned {rs : RteSiteRole} {answer : ReceiveAnswer} (refused : answer.accepted = false) :
    Unlearned rs (receiveFrame rs answer).1 := by
  have undecoded : decodes rs.cfg answer = false := by rw [decodes, refused, Bool.and_false]
  unfold receiveFrame
  split
  · rw [if_neg (by rw [undecoded]; exact Bool.false_ne_true)]
    exact ⟨_, rfl⟩
  · exact ⟨rs.rxBuf, rfl⟩

theorem uncalledUnlearned {rs : RteSiteRole} {answer : ReceiveAnswer} (uncalled : receivedState rs answer = none) :
    Unlearned rs (receiveFrame rs answer).1 := by
  unfold receivedState at uncalled
  split at uncalled
  · cases uncalled
  · rename_i closed
    unfold receiveFrame
    split
    · rename_i ok
      have undecoded : decodes rs.cfg answer = false := by
        rw [decodes, decide_eq_false fun room => closed ⟨ok, room⟩, Bool.false_and]
      rw [if_neg (by rw [undecoded]; exact Bool.false_ne_true)]
      exact ⟨_, rfl⟩
    · exact ⟨rs.rxBuf, rfl⟩

theorem acceptedDecoded {rs : RteSiteRole} {answer : ReceiveAnswer} (called : (receivedState rs answer).isSome = true)
    (accepted : answer.accepted = true) : (receiveFrame rs answer).1 = decodeFrame (buffered rs answer.payload) := by
  unfold receivedState at called
  split at called
  · rename_i takes
    simp only [receiveFrame, decodes, takes, accepted, decide_true, Bool.and_self, if_true]
  · cases called

namespace Station

theorem receivePresented {s : Station} {answer : Answer} {payload : Bytes} (room : frameOverhead < s.rs.cfg.frameSize)
    (byte : s.rs.cfg.frameSize ≤ 255) (single : s.wire.channel.linkCount = 1)
    (waits : presented s.wire.channel s.wire.manager answer = some payload) (accepted : Bool) :
    ∃ after received, s.receive answer accepted = some (after, received) ∧ after.rs = s.rs ∧
      received = if s.rs.cfg.frameSize < payload.length then ⟨.invalidParam, [], accepted⟩
        else ⟨.ok, payload, accepted⟩ := by
  obtain ⟨some_, size⟩ := sizeByte room byte
  obtain ⟨⟨channel, manager, returned⟩, ran, same⟩ := receiveTakes some_ single waits
  rw [size] at same
  by_cases long : s.rs.cfg.frameSize < payload.length
  · rw [if_pos long] at same ⊢
    cases same
    exact ⟨{ s with wire := ⟨channel, manager⟩ }, _, by rw [receive, ran]; rfl, rfl, rfl⟩
  · rw [if_neg long] at same ⊢
    cases same
    exact ⟨{ s with wire := ⟨channel, manager⟩ }, _, by rw [receive, ran]; rfl, rfl, rfl⟩

end Station
end PlatformRte.SiteRole
