import PlatformRte.Lib.Bytes
import Mathlib.Data.List.GetD

/-! The negotiation frame, frameSize bytes on the link:
faulted(1), single_mode(1), cycle(4), application state(frameSize - 7), valid(1). -/
namespace PlatformRte.SiteRole
open Bytes

def frameOverhead : Nat := 7
def frameStateOffset : Nat := 6
def validMarker : UInt8 := 0xA5

def stateSize (frameSize : Nat) : Nat := frameSize - frameOverhead

/- region is what encode_state left in the zeroed state region. -/
def encodeFrame (frameSize : Nat) (faulted singleMode : Bool) (cycle : UInt32) (live : Bool)
    (region : Bytes) : Bytes :=
  [if faulted then 1 else 0, if singleMode then 1 else 0] ++
    (leBytes 4 (if live then cycle else 0).toNat ++
      (fit (stateSize frameSize) region ++ [if live then validMarker else 0]))

def frameFaulted (frame : Bytes) : Bool := frame.getD 0 0 != 0
def frameSingleMode (frame : Bytes) : UInt8 := frame.getD 1 0
def frameCycle (frame : Bytes) : UInt32 := UInt32.ofNat (readLe frame 2 4)
def frameState (frameSize : Nat) (frame : Bytes) : Bytes := field frame frameStateOffset (stateSize frameSize)
def frameValid (frameSize : Nat) (frame : Bytes) : Bool := frame.getD (frameSize - 1) 0 == validMarker

section Decoded
variable {frameSize : Nat} (faulted singleMode : Bool) (cycle : UInt32) (live : Bool) (region rest : Bytes)

theorem encodedLength (room : frameOverhead < frameSize) :
    (encodeFrame frameSize faulted singleMode cycle live region).length = frameSize := by
  simp only [frameOverhead] at room
  simp only [encodeFrame, List.length_append, List.length_cons, List.length_nil, leLength, fitLength, stateSize,
    frameOverhead]
  omega

@[simp] theorem encodedFaulted :
    frameFaulted (encodeFrame frameSize faulted singleMode cycle live region ++ rest) = faulted := by
  cases faulted <;> simp [frameFaulted, encodeFrame]

@[simp] theorem encodedSingleMode :
    frameSingleMode (encodeFrame frameSize faulted singleMode cycle live region ++ rest) =
      if singleMode then 1 else 0 := by
  cases singleMode <;> simp [frameSingleMode, encodeFrame]

theorem encodedCycle :
    frameCycle (encodeFrame frameSize faulted singleMode cycle true region ++ rest) = cycle := by
  have bound : cycle.toNat < 256 ^ 4 := cycle.toNat_lt
  have back := readLeAppend [if faulted then 1 else 0, if singleMode then 1 else 0]
    (fit (stateSize frameSize) region ++ [validMarker] ++ rest) 4 cycle.toNat bound
  simp only [List.length_cons, List.length_nil] at back
  simp only [frameCycle, encodeFrame, if_true, List.append_assoc] at back ⊢
  rw [back, UInt32.ofNat_toNat]

theorem encodedState :
    frameState frameSize (encodeFrame frameSize faulted singleMode cycle live region ++ rest) =
      fit (stateSize frameSize) region := by
  have cut := fieldAppend
    ([if faulted then 1 else 0, if singleMode then 1 else 0] ++ leBytes 4 (if live then cycle else 0).toNat)
    (fit (stateSize frameSize) region) ([if live then validMarker else 0] ++ rest)
  simp only [List.length_append, List.length_cons, List.length_nil, leLength, fitLength] at cut
  simpa only [frameState, frameStateOffset, encodeFrame, List.append_assoc] using cut

theorem encodedValid (room : frameOverhead < frameSize) :
    frameValid frameSize (encodeFrame frameSize faulted singleMode cycle live region ++ rest) = live := by
  have len := encodedLength faulted singleMode cycle live region room
  have last : (encodeFrame frameSize faulted singleMode cycle live region ++ rest).getD (frameSize - 1) 0 =
      if live then validMarker else 0 := by
    simp only [frameOverhead] at room
    rw [List.getD_append _ _ _ _ (by omega)]
    simp only [encodeFrame, ← List.append_assoc]
    rw [List.getD_append_right _ _ _ _ (by simp [stateSize, frameOverhead]; omega)]
    simp only [List.length_append, List.length_cons, List.length_nil, leLength, fitLength, stateSize, frameOverhead]
    rw [show frameSize - 1 - (0 + 1 + 1 + 4 + (frameSize - 7)) = 0 by omega]
    rfl
  rw [frameValid, last]
  cases live <;> decide

end Decoded
end PlatformRte.SiteRole
