import PlatformRte.Config.Load
import Mathlib.Data.List.GetD

/-! The numbers of a loaded configuration and the numerals of its file. Of a value only the
digits in front are read, and what they make is cut to the width of its field. -/
namespace PlatformRte.Config
open Bytes

def objectItemOf : Bytes → Option (Bytes × Bytes)
  | [] => none
  | first :: rest =>
      if first ≠ objectStart then none
      else
        match rest.dropWhile fun byte => byte != objectEnd with
        | [] => none
        | _ :: behind => some (first :: rest.takeWhile fun byte => byte != objectEnd, behind)

def objectsOf (text : Bytes) : Option (List Bytes) :=
  givenOf (lookIn text (ascii "channels")) (some []) (arrayOf objectItemOf maxChannels)

/- The number of the digits, when only whitespace stands between them and a comma, a closing
brace or the end. -/
def wholeNumeralOf (value : Bytes) : Option Nat :=
  if digitsOf value = [] then none
  else
    match (value.dropWhile isDigit).dropWhile isWs with
    | [] => some (numeral (digitsOf value))
    | next :: _ => if next = comma ∨ next = objectEnd then some (numeral (digitsOf value)) else none

def Fits (text key : Bytes) (bound : Nat) : Prop :=
  ∀ value, lookIn text key = some value → ∃ number < bound, wholeNumeralOf value = some number

section Fields
variable {text key value : Bytes} {number : UInt32}

end Fields

section Objects
variable {rest text : Bytes}

theorem channelItem (rest : Bytes) : channelItemOf rest =
    (objectItemOf rest).bind fun found => (channelOf found.1).map fun channel => (channel, found.2) := by
  cases rest with
  | nil => rfl
  | cons first rest =>
    simp only [channelItemOf, objectItemOf]
    by_cases other : first ≠ objectStart
    · rw [if_pos other, if_pos other, Option.bind_none]
    · rw [if_neg other, if_neg other]
      cases rest.dropWhile fun byte => byte != objectEnd <;> rfl

theorem channelItems {room : Nat} {channels : List ChannelDef}
    (read : itemsOf channelItemOf room rest = some channels) :
    ∃ objects, itemsOf objectItemOf room rest = some objects ∧
      List.Forall₂ (fun object channel => channelOf object = some channel) objects channels := by
  induction room generalizing rest channels with
  | zero =>
    cases rest with
    | nil => cases read
    | cons next rest =>
      simp only [itemsOf] at read ⊢
      split at read
      · rename_i ends
        cases read
        exact ⟨[], if_pos ends, .nil⟩
      · cases read
  | succ room ih =>
    cases rest with
    | nil => cases read
    | cons next rest =>
      simp only [itemsOf] at read ⊢
      split at read
      · rename_i ends
        cases read
        exact ⟨[], if_pos ends, .nil⟩
      · rename_i more
        simp only [bind, channelItem, Option.bind_eq_some_iff, Option.map_eq_some_iff] at read
        obtain ⟨⟨channel, behind⟩, ⟨⟨object, _⟩, here, _, parsed, pair⟩, others, later, same⟩ := read
        cases pair
        cases same
        obtain ⟨objects, found, each⟩ := ih later
        refine ⟨object :: objects, ?_, .cons parsed each⟩
        simp only [if_neg more, bind, here, found, Option.bind_some]

theorem channelArray {channels : List ChannelDef} (read : channelsFrom (lookIn text) = some channels) :
    ∃ objects, objectsOf text = some objects ∧
      List.Forall₂ (fun object channel => channelOf object = some channel) objects channels := by
  unfold objectsOf
  rw [channelsFrom] at read
  cases found : lookIn text (ascii "channels") with
  | none =>
    rw [found] at read
    cases read
    exact ⟨[], rfl, .nil⟩
  | some value =>
    rw [found] at read
    simp only [givenOf] at read ⊢
    unfold arrayOf at read ⊢
    split at read
    · cases read
    · split at read
      · cases read
      · rename_i starts
        rw [if_neg starts]
        exact channelItems read

end Objects

theorem configChannels {text : Bytes} {config : RedundancyConfig} (read : configOf text = some config) :
    ∃ objects, objectsOf text = some objects ∧ objects.length ≤ maxChannels ∧
      config.channelCount.toNat = objects.length ∧
      ∀ i (inside : i < maxChannels), (there : i < objects.length) →
        channelOf objects[i] = some (config.channels.get ⟨i, inside⟩) := by
  simp only [configOf, configFrom, bind, Option.bind_eq_some_iff] at read
  obtain ⟨_, _, _, _, _, _, channels, linked, same⟩ := read
  cases same
  obtain ⟨few, _⟩ := channelsBound linked
  obtain ⟨objects, found, each⟩ := channelArray linked
  refine ⟨objects, found, each.length_eq ▸ few, ?_, fun i inside there => ?_⟩
  · rw [each.length_eq]
    exact UInt32.toNat_ofNat_of_lt' (few.trans_lt (by decide))
  · have here : i < channels.length := by rw [← each.length_eq]; exact there
    have filled : (Vector.ofFn fun i : Fin maxChannels => channels.getD i clearedChannel).get ⟨i, inside⟩ =
        channels[i] := by
      have cell : (Vector.ofFn fun i : Fin maxChannels => channels.getD i clearedChannel).get ⟨i, inside⟩ =
          channels.getD i clearedChannel := Vector.getElem_ofFn _
      rw [cell, List.getD_eq_getElem _ _ here]
    rw [filledConfig, filled]
    exact (List.forall₂_iff_get.mp each).2 i there here

end PlatformRte.Config
