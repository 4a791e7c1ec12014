import PlatformRte.Utils.Kept
import PlatformRte.Lib.Split

/-! Splitting a string: the calls end, and their tokens are the pieces of the content. -/
namespace PlatformRte.Utils
open Bytes Split

def tokenBytes (str : RteString) (token : Token) : Bytes :=
  ((str.data.getD []).drop token.start.toNat).take token.length.toNat

def splitRun (str : RteString) (delimiter : UInt8) : Nat → UInt64 → Option (List Bytes)
  | 0, _ => none
  | calls + 1, cursor =>
    match rteStringSplitNext (some str) delimiter (some cursor) (some ⟨0, 0⟩) (some false) with
    | (.ok, some next, some token, some true) => (splitRun str delimiter calls next).map (tokenBytes str token :: ·)
    | (.ok, _, _, some false) => some []
    | _ => none

section Steps
variable {str : RteString} {delimiter : UInt8}

theorem toDelimiterEnds {data : Bytes} {left i : Nat} (fits : i + left ≤ data.length) :
    toDelimiter data delimiter left i
      = i + (((data.drop i).take left).takeWhile fun byte => byte != delimiter).length := by
  induction left generalizing i with
  | zero => simp [toDelimiter]
  | succ left ih =>
    have inside : i < data.length := by omega
    have here : byteAt data i = data[i] := by
      rw [byteAt, List.getD_eq_getElem?_getD, List.getElem?_eq_getElem inside]
      rfl
    rw [List.drop_eq_getElem_cons inside, List.take_succ_cons, toDelimiter, here, List.takeWhile_cons]
    by_cases found : data[i] = delimiter
    · simp [found]
    · have goesOn : (data[i] != delimiter) = true := bne_iff_ne.mpr found
      rw [if_pos found, if_pos goesOn, List.length_cons, ih (by omega)]
      omega

theorem splitNextStops (kept : Kept str) {cursor : UInt64} (inside : cursor < str.length) :
    ∃ i : UInt64,
      i.toNat = cursor.toNat
        + (((contentOf str).drop cursor.toNat).takeWhile fun byte => byte != delimiter).length ∧
      rteStringSplitNext (some str) delimiter (some cursor) (some ⟨0, 0⟩) (some false)
        = (.ok, some (if i < str.length then i + 1 else i), some ⟨cursor, i - cursor⟩, some true) := by
  obtain ⟨bytes, data, room⟩ := kept.backed
  have less : cursor.toNat < str.length.toNat := UInt64.lt_iff_toNat_lt.mp inside
  have within : str.length.toNat ≤ bytes.length := le_trans kept.lengthLe room
  have left : (str.length - cursor).toNat = str.length.toNat - cursor.toNat :=
    UInt64.toNat_sub_of_le _ _ (UInt64.le_of_lt inside)
  have rest : (contentOf str).drop cursor.toNat = (bytes.drop cursor.toNat).take (str.length.toNat - cursor.toNat) := by
    rw [contentOf, data, Option.getD_some, List.drop_take]
  let token := ((contentOf str).drop cursor.toNat).takeWhile fun byte => byte != delimiter
  have stops : toDelimiter bytes delimiter (str.length - cursor).toNat cursor.toNat = cursor.toNat + token.length := by
    rw [toDelimiterEnds (by omega), left, ← rest]
  have tokenLength : token.length ≤ str.length.toNat - cursor.toNat := by
    calc token.length
        ≤ ((contentOf str).drop cursor.toNat).length := (List.takeWhile_prefix _).length_le
      _ = str.length.toNat - cursor.toNat := by rw [List.length_drop, kept.contentLength]
  have bound := str.length.toNat_lt
  refine ⟨UInt64.ofNat (cursor.toNat + token.length), ?_, ?_⟩
  · rw [UInt64.toNat_ofNat', Nat.mod_eq_of_lt (by omega)]
  · have notPast : ¬cursor > str.length := UInt64.not_lt.mpr (UInt64.le_of_lt inside)
    dsimp only [rteStringSplitNext]
    rw [if_neg (by simp [kept.valid]), if_neg notPast, if_neg (UInt64.ne_of_lt inside), data, Option.getD_some, stops]

theorem tokenWithin (kept : Kept str) {cursor i : UInt64} {size : Nat} (place : i.toNat = cursor.toNat + size)
    (within : cursor.toNat + size ≤ str.length.toNat) :
    tokenBytes str ⟨cursor, i - cursor⟩ = ((contentOf str).drop cursor.toNat).take size := by
  obtain ⟨bytes, data, _⟩ := kept.backed
  have span : (i - cursor).toNat = size := by
    rw [UInt64.toNat_sub_of_le _ _ (by rw [UInt64.le_iff_toNat_le, place]; omega), place]
    omega
  have short : size ≤ str.length.toNat - cursor.toNat := by omega
  rw [tokenBytes, contentOf, data, Option.getD_some, List.drop_take, List.take_take, Nat.min_eq_left short]
  dsimp only
  rw [span]

theorem dropToken (text : Bytes) :
    text.drop (text.takeWhile fun byte => byte != delimiter).length = text.dropWhile fun byte => byte != delimiter := by
  let token := text.takeWhile fun byte => byte != delimiter
  have whole : token ++ text.dropWhile (fun byte => byte != delimiter) = text := List.takeWhile_append_dropWhile
  calc text.drop token.length
      = (token ++ text.dropWhile fun byte => byte != delimiter).drop token.length := by rw [whole]
    _ = text.dropWhile fun byte => byte != delimiter := List.drop_left

theorem splitNextStep (kept : Kept str) {cursor : UInt64} (inside : cursor < str.length) :
    ∃ next token, rteStringSplitNext (some str) delimiter (some cursor) (some ⟨0, 0⟩) (some false)
        = (.ok, some next, some token, some true) ∧
      next ≤ str.length ∧ cursor < next ∧
      tokenBytes str token = ((contentOf str).drop cursor.toNat).takeWhile (fun byte => byte != delimiter) ∧
      (contentOf str).drop next.toNat
        = (((contentOf str).drop cursor.toNat).dropWhile fun byte => byte != delimiter).tail := by
  obtain ⟨i, place, runs⟩ := splitNextStops kept inside
  have less : cursor.toNat < str.length.toNat := UInt64.lt_iff_toNat_lt.mp inside
  let text := (contentOf str).drop cursor.toNat
  let token := text.takeWhile fun byte => byte != delimiter
  have front : token <+: text := List.takeWhile_prefix _
  have textLength : text.length = str.length.toNat - cursor.toNat := by
    rw [List.length_drop, kept.contentLength]
  have tokenLength : token.length ≤ text.length := front.length_le
  have inContent : cursor.toNat + token.length ≤ str.length.toNat := by omega
  have isToken : tokenBytes str ⟨cursor, i - cursor⟩ = token :=
    (tokenWithin kept place inContent).trans (List.prefix_iff_eq_take.mp front).symm
  have after : (contentOf str).drop (cursor.toNat + token.length) = text.dropWhile fun byte => byte != delimiter := by
    rw [← List.drop_drop]
    exact dropToken text
  have bound := str.length.toNat_lt
  by_cases more : i < str.length
  · have moreNat : cursor.toNat + token.length < str.length.toNat := place ▸ UInt64.lt_iff_toNat_lt.mp more
    have next : (i + 1).toNat = cursor.toNat + token.length + 1 := by
      rw [UInt64.toNat_add, place]
      exact Nat.mod_eq_of_lt (by change cursor.toNat + token.length + 1 < 2 ^ 64; omega)
    refine ⟨i + 1, _, by rw [runs, if_pos more], ?_, ?_, isToken, ?_⟩
    · rw [UInt64.le_iff_toNat_le, next]
      omega
    · rw [UInt64.lt_iff_toNat_lt, next]
      omega
    · rw [next, ← List.drop_drop, after, List.drop_one]
  · have all : cursor.toNat + token.length = str.length.toNat := by
      have notLess : ¬cursor.toNat + token.length < str.length.toNat := fun is_ =>
        more (UInt64.lt_iff_toNat_lt.mpr (place.symm ▸ is_))
      omega
    have ended : (contentOf str).drop (cursor.toNat + token.length) = [] :=
      List.drop_eq_nil_of_le (by rw [kept.contentLength, all])
    refine ⟨i, _, by rw [runs, if_neg more], ?_, ?_, isToken, ?_⟩
    · rw [UInt64.le_iff_toNat_le, place, all]
    · rw [UInt64.lt_iff_toNat_lt, place, all]
      exact less
    · rw [place, ended, ← after, ended]
      rfl

theorem splitNextEnd (kept : Kept str) :
    rteStringSplitNext (some str) delimiter (some str.length) (some ⟨0, 0⟩) (some false)
      = (.ok, some str.length, some ⟨0, 0⟩, some false) := by
  dsimp only [rteStringSplitNext]
  rw [if_neg (by simp [kept.valid]), if_neg (UInt64.lt_irrefl _), if_pos rfl]

theorem splitRunPieces (kept : Kept str) {cursor : UInt64} (within : cursor ≤ str.length) {calls : Nat}
    (enough : str.length.toNat - cursor.toNat < calls) :
    splitRun str delimiter calls cursor = some (pieces delimiter ((contentOf str).drop cursor.toNat)) := by
  induction calls generalizing cursor with
  | zero => exact absurd enough (Nat.not_lt_zero _)
  | succ calls ih =>
    have atMost := UInt64.le_iff_toNat_le.mp within
    rcases UInt64.lt_or_eq_of_le within with inside | ended
    · obtain ⟨next, token, runs, nextWithin, forward, isToken, rest⟩ := splitNextStep kept inside
      have less := UInt64.lt_iff_toNat_lt.mp inside
      have further := UInt64.lt_iff_toNat_lt.mp forward
      have some_ : (contentOf str).drop cursor.toNat ≠ [] := by
        intro none
        have size := congrArg List.length none
        rw [List.length_drop, kept.contentLength, List.length_nil] at size
        omega
      rw [splitRun, runs]
      dsimp only
      rw [ih nextWithin (by omega), piecesStep some_, isToken, rest, Option.map_some]
    · have nothing : (contentOf str).drop cursor.toNat = [] :=
        List.drop_eq_nil_of_le (by rw [kept.contentLength, ended])
      rw [splitRun, ended, splitNextEnd kept, ← ended, nothing]
      rfl

theorem splitRunWhole (kept : Kept str) {calls : Nat} (enough : str.length.toNat < calls) :
    splitRun str delimiter calls 0 = some (pieces delimiter (contentOf str)) :=
  splitRunPieces kept (UInt64.le_iff_toNat_le.mpr (Nat.zero_le _)) (lt_of_le_of_lt (Nat.sub_le _ _) enough)

end Steps

/- The calls end, and the tokens joined are the content; a delimiter at its very end is the one
thing that leaves no token of its own. -/
theorem splitKeeps {str other : RteString} (kept : Kept str) (keptOther : Kept other) (delimiter : UInt8) :
    (∃ tokens, (∀ calls, str.length.toNat < calls → splitRun str delimiter calls 0 = some tokens) ∧
      (contentOf str ≠ [] →
        [delimiter].intercalate tokens ++ (if endsWith (contentOf str) delimiter then [delimiter] else [])
          = contentOf str)) ∧
    ∀ calls callsOther, str.length.toNat < calls → other.length.toNat < callsOther →
      splitRun str delimiter calls 0 = splitRun other delimiter callsOther 0 →
      contentOf str = contentOf other ∨ contentOf str = contentOf other ++ [delimiter] ∨
        contentOf other = contentOf str ++ [delimiter] := by
  refine ⟨⟨_, fun calls => splitRunWhole kept, joinPieces⟩, ?_⟩
  intro calls callsOther enough enoughOther same
  rw [splitRunWhole kept enough, splitRunWhole keptOther enoughOther] at same
  exact piecesApart (Option.some.inj same)

theorem splitKeepsCommas :
    ∃ tokens, splitRun ⟨some (ascii ",a,,b,"), 6, 6⟩ 0x2C 7 0 = some tokens ∧
      [0x2C].intercalate tokens ++ [0x2C] = ascii ",a,,b," := by
  have kept : Kept ⟨some (ascii ",a,,b,"), 6, 6⟩ := ⟨⟨_, rfl, by decide⟩, by decide⟩
  obtain ⟨⟨tokens, runs, joined⟩, _⟩ := splitKeeps kept kept 0x2C
  exact ⟨tokens, runs 7 (by decide), joined (by decide)⟩

/- A text and the same text with a delimiter behind it yield one token each, the same. -/
theorem trailingDelimiterLost :
    splitRun ⟨some (ascii "a,"), 2, 2⟩ 0x2C 3 0 = some [ascii "a"] ∧
      splitRun ⟨some (ascii "a"), 1, 1⟩ 0x2C 3 0 = some [ascii "a"] ∧
      contentOf ⟨some (ascii "a,"), 2, 2⟩ = ascii "a," ∧ [0x2C].intercalate [ascii "a"] ≠ ascii "a," := by
  decide

end PlatformRte.Utils
