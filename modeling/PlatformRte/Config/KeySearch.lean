import PlatformRte.Config.Document

/-! Where the key search finds a key: a place is a quoted name and a colon, and no place
reaches over a comma, a bracket or a brace. -/
namespace PlatformRte.Config
open Bytes

variable {key text rest value : Bytes} {byte : UInt8}

def keyBytes : Bytes := ascii "abcdefghijklmnopqrstuvwxyz_"

structure PlainKey (key : Bytes) : Prop where
  some_ : key ≠ []
  bytes : ∀ byte ∈ key, byte ∈ keyBytes

def separators : Bytes := [comma, arrayStart, arrayEnd, objectStart, objectEnd]

def Silent (key text : Bytes) : Prop := lookIn text key = none

theorem keyByteNot : ∀ byte ∈ keyBytes,
    byte ≠ quote ∧ byte ≠ backslash ∧ byte ≠ colon ∧ isWs byte = false ∧ byte ∉ separators := eachByte (by decide)

theorem separatorNot : ∀ byte ∈ separators, byte ≠ quote ∧ byte ≠ colon ∧ isWs byte = false := eachByte (by decide)

theorem wsNot : isWs byte = true → byte ≠ quote ∧ byte ≠ colon ∧ isDigit byte = false ∧ byte ∉ separators := by
  simp only [isWs, Bool.or_eq_true, beq_iff_eq]
  rintro (((rfl | rfl) | rfl) | rfl) <;> decide

def isPlainKey (key : Bytes) : Bool := !key.isEmpty && key.all fun byte => byte ∈ keyBytes

theorem plainKey (plain : isPlainKey key = true) : PlainKey key := by
  rw [isPlainKey, Bool.and_eq_true] at plain
  exact ⟨by simpa using plain.1, eachByte plain.2⟩

theorem plainConfigKey : ∀ key ∈ configKeys, PlainKey key := by
  have all : ∀ key ∈ configKeys, isPlainKey key = true := by decide
  exact fun key known => plainKey (all key known)

theorem plainChannelKey : ∀ key ∈ channelKeys, PlainKey key := by
  have all : ∀ key ∈ channelKeys, isPlainKey key = true := by decide
  exact fun key known => plainKey (all key known)

theorem PlainKey.noQuote (plain : PlainKey key) : quote ∉ key :=
  fun member => (keyByteNot quote (plain.bytes quote member)).1 rfl

theorem skipByte (other : byte ≠ quote) : lookIn (byte :: rest) key = lookIn rest key := by
  have notHere : keyHere (needleOf key) (byte :: rest) = none := by
    refine if_neg fun same => other ?_
    exact (List.cons.inj same).1
  simp only [lookIn, valueOf, notHere]

theorem skipBytes (none_ : quote ∉ text) : lookIn (text ++ rest) key = lookIn rest key := by
  induction text with
  | nil => rfl
  | cons byte more ih =>
    rw [List.mem_cons, not_or] at none_
    rw [List.cons_append, skipByte (Ne.symm none_.1), ih none_.2]

theorem noQuoteSilent (none_ : quote ∉ text) : Silent key text := by
  have skipped := @skipBytes key text [] none_
  rw [List.append_nil] at skipped
  exact skipped

theorem dropWsAppend (notWs : isWs byte = false) (text rest : Bytes) :
    (text ++ byte :: rest).dropWhile isWs = text.dropWhile isWs ++ byte :: rest := by
  induction text with
  | nil => rw [List.nil_append, List.dropWhile_cons_of_neg (by simp [notWs]), List.dropWhile_nil, List.nil_append]
  | cons first more ih =>
    rw [List.cons_append]
    cases ws : isWs first
    · rw [List.dropWhile_cons_of_neg (by simp [ws]), List.dropWhile_cons_of_neg (by simp [ws]), List.cons_append]
    · rw [List.dropWhile_cons_of_pos ws, List.dropWhile_cons_of_pos ws, ih]

theorem dropSpaces (spaces : Spaces text) (rest : Bytes) : (text ++ rest).dropWhile isWs = rest.dropWhile isWs := by
  induction text with
  | nil => rfl
  | cons first more ih =>
    rw [List.cons_append, List.dropWhile_cons_of_pos (spaces first List.mem_cons_self)]
    exact ih fun byte member => spaces byte (List.mem_cons_of_mem _ member)

theorem spacesDropped (spaces : Spaces text) : text.dropWhile isWs = [] := by
  have dropped := dropSpaces spaces []
  rwa [List.append_nil] at dropped

theorem Spaces.noQuote (spaces : Spaces text) : quote ∉ text := fun member => (wsNot (spaces quote member)).1 rfl

theorem keyHereAppend (plain : PlainKey key) (separator : byte ∈ separators) (text rest : Bytes) :
    keyHere (needleOf key) (text ++ byte :: rest) =
      (keyHere (needleOf key) text).map fun value => value ++ byte :: rest := by
  obtain ⟨notQuote, notColon, notWs⟩ := separatorNot byte separator
  have outside : byte ∉ needleOf key := by
    simp only [needleOf, List.cons_append, List.mem_cons, List.mem_append, List.not_mem_nil, or_false, not_or]
    exact ⟨notQuote, fun member => (keyByteNot byte (plain.bytes byte member)).2.2.2.2 separator, notQuote⟩
  by_cases long : (needleOf key).length ≤ text.length
  · rw [keyHere, keyHere, List.take_append_of_le_length long, List.drop_append_of_le_length long]
    split
    · rw [dropWsAppend notWs]
      cases text.drop (needleOf key).length |>.dropWhile isWs with
      | nil => exact if_neg notColon
      | cons mark behind =>
        rw [List.cons_append]
        dsimp only
        split
        · rw [dropWsAppend notWs]
          rfl
        · rfl
    · rfl
  · have short : keyHere (needleOf key) text = none := by
      refine if_neg fun same => long ?_
      rw [← same]
      exact (List.take_sublist _ _).length_le
    rw [short, Option.map_none]
    refine if_neg fun same => outside ?_
    rw [← same, List.take_append, List.mem_append]
    refine Or.inr ?_
    obtain ⟨more, enough⟩ : ∃ more, (needleOf key).length - text.length = more + 1 :=
      ⟨(needleOf key).length - text.length - 1, by omega⟩
    rw [enough, List.take_succ_cons]
    exact List.mem_cons_self

theorem lookAppend (plain : PlainKey key) (separator : byte ∈ separators) (text rest : Bytes) :
    lookIn (text ++ byte :: rest) key =
      match lookIn text key with
      | some value => some (value ++ byte :: rest)
      | none => lookIn rest key := by
  induction text with
  | nil => exact skipByte (separatorNot byte separator).1
  | cons first more ih =>
    have here := keyHereAppend plain separator (first :: more) rest
    simp only [lookIn] at ih
    simp only [lookIn, List.cons_append, valueOf] at here ⊢
    rw [here]
    cases keyHere (needleOf key) (first :: more) with
    | none => exact ih
    | some value => rfl

theorem placeIs (found : keyHere (needleOf key) (quote :: text) = some value) :
    ∃ behind rest, text = key ++ quote :: behind ∧ behind.dropWhile isWs = colon :: rest := by
  unfold keyHere at found
  split at found
  · rename_i same
    have whole := List.take_append_drop (needleOf key).length (quote :: text)
    rw [same, needleOf, List.cons_append, List.cons_append, List.append_assoc] at whole
    split at found
    · cases found
    · rename_i mark rest dropped
      split at found
      · rename_i isColon
        exact ⟨_, rest, (List.cons.inj whole).2.symm, isColon ▸ dropped⟩
      · cases found
  · cases found

theorem placeHere {between : Bytes} (spaces : Spaces between) (rest : Bytes) :
    keyHere (needleOf key) (stringText key ++ between ++ colon :: rest) = some (rest.dropWhile isWs) := by
  have split : stringText key ++ between ++ colon :: rest = needleOf key ++ (between ++ colon :: rest) := by
    rw [List.append_assoc]
    rfl
  rw [keyHere, split, List.take_left, List.drop_left, if_pos rfl, dropSpaces spaces,
    List.dropWhile_cons_of_neg (by decide)]
  exact if_pos rfl

theorem ownLook {before between : Bytes} (spaces : Spaces before) (spaces' : Spaces between) (rest : Bytes) :
    lookIn (before ++ stringText key ++ between ++ colon :: rest) key = some (rest.dropWhile isWs) := by
  have here := @placeHere key _ spaces' rest
  rw [List.append_assoc, List.append_assoc, skipBytes spaces.noQuote, ← List.append_assoc]
  rw [lookIn, stringText, List.cons_append, List.cons_append, List.cons_append, valueOf]
  rw [stringText, List.cons_append, List.cons_append, List.cons_append] at here
  rw [here]

theorem untilByte {stop : UInt8} (notIn : stop ∉ text) (rest : Bytes) :
    (text ++ stop :: rest).takeWhile (fun byte => byte != stop) = text ∧
      (text ++ stop :: rest).dropWhile (fun byte => byte != stop) = stop :: rest := by
  induction text with
  | nil => exact ⟨List.takeWhile_cons_of_neg (by simp), List.dropWhile_cons_of_neg (by simp)⟩
  | cons first more ih =>
    rw [List.mem_cons, not_or] at notIn
    have goesOn : (first != stop) = true := by simpa using Ne.symm notIn.1
    simp only [List.cons_append, List.takeWhile_cons, List.dropWhile_cons, goesOn, if_true]
    exact ⟨congrArg _ (ih notIn.2).1, (ih notIn.2).2⟩

theorem otherLook {before other between : Bytes} (plain : PlainKey key) (noQuote : quote ∉ other)
    (differs : other ≠ key) (spaces : Spaces before) (spaces' : Spaces between) (rest : Bytes) :
    lookIn (before ++ stringText other ++ between ++ colon :: rest) key = lookIn rest key := by
  have opening : keyHere (needleOf key) (quote :: (other ++ quote :: (between ++ colon :: rest))) = none := by
    cases found : keyHere (needleOf key) (quote :: (other ++ quote :: (between ++ colon :: rest))) with
    | none => rfl
    | some value =>
      obtain ⟨behind, _, same, _⟩ := placeIs found
      have name := (untilByte noQuote (between ++ colon :: rest)).1
      rw [same, (untilByte plain.noQuote behind).1] at name
      exact absurd name.symm differs
  have closing : keyHere (needleOf key) (quote :: (between ++ colon :: rest)) = none := by
    cases found : keyHere (needleOf key) (quote :: (between ++ colon :: rest)) with
    | none => rfl
    | some value =>
      obtain ⟨behind, _, same, _⟩ := placeIs found
      obtain ⟨first, more, rfl⟩ := List.exists_cons_of_ne_nil plain.some_
      have ofKey := keyByteNot first (plain.bytes first List.mem_cons_self)
      cases between with
      | nil => exact absurd (List.cons.inj same).1.symm ofKey.2.2.1
      | cons space _ =>
        have isSpace := spaces' space List.mem_cons_self
        rw [(List.cons.inj same).1, ofKey.2.2.2.1] at isSpace
        cases isSpace
  have split : before ++ stringText other ++ between ++ colon :: rest =
      before ++ quote :: (other ++ quote :: (between ++ colon :: rest)) := by simp [stringText]
  rw [split, skipBytes spaces.noQuote]
  simp only [lookIn, valueOf, opening]
  have name := @skipBytes key other (quote :: (between ++ colon :: rest)) noQuote
  simp only [lookIn, valueOf, closing] at name
  rw [name]
  have after := @skipBytes key (between ++ [colon]) rest (by
    rw [List.mem_append, not_or]
    exact ⟨spaces'.noQuote, by decide⟩)
  rwa [List.append_assoc] at after

theorem bodyEnds {body behind rest : Bytes} (string : StringBody body)
    (letters : ∀ byte ∈ key, byte ≠ quote ∧ byte ≠ backslash) (same : body ++ quote :: rest = key ++ quote :: behind) :
    behind = rest := by
  induction string generalizing key with
  | nil =>
    cases key with
    | nil => exact (List.cons.inj same).2.symm
    | cons first more => exact absurd (List.cons.inj same).1.symm (letters first List.mem_cons_self).1
  | plain visible notQuote notBackslash more ih =>
    cases key with
    | nil => exact absurd (List.cons.inj same).1 notQuote
    | cons first others =>
      exact ih (fun byte member => letters byte (List.mem_cons_of_mem _ member)) (List.cons.inj same).2
  | escape known more ih =>
    cases key with
    | nil => exact absurd (List.cons.inj same).1 (by decide)
    | cons first others => exact absurd (List.cons.inj same).1.symm (letters first List.mem_cons_self).2
  | unicode hex more ih =>
    cases key with
    | nil => exact absurd (List.cons.inj same).1 (by decide)
    | cons first others => exact absurd (List.cons.inj same).1.symm (letters first List.mem_cons_self).2

theorem bodyPlace {body behind : Bytes} (plain : PlainKey key) (string : StringBody body) (spaces : Spaces behind) :
    keyHere (needleOf key) (quote :: (body ++ quote :: behind)) = none := by
  cases found : keyHere (needleOf key) (quote :: (body ++ quote :: behind)) with
  | none => rfl
  | some value =>
    obtain ⟨after, rest, same, mark⟩ := placeIs found
    have letters : ∀ byte ∈ key, byte ≠ quote ∧ byte ≠ backslash := fun byte member =>
      ⟨(keyByteNot byte (plain.bytes byte member)).1, (keyByteNot byte (plain.bytes byte member)).2.1⟩
    rw [bodyEnds string letters same, spacesDropped spaces] at mark
    cases mark

theorem escapePlace (notHere : byte = quote → keyHere (needleOf key) (quote :: rest) = none) :
    lookIn (byte :: rest) key = lookIn rest key := by
  by_cases isQuote : byte = quote
  · simp only [lookIn, isQuote, valueOf, notHere isQuote]
  · exact skipByte isQuote

theorem bodySilent {body behind : Bytes} (plain : PlainKey key) (string : StringBody body) (spaces : Spaces behind) :
    Silent key (body ++ quote :: behind) := by
  induction string with
  | nil =>
    have closing : keyHere (needleOf key) (quote :: behind) = none := by
      cases found : keyHere (needleOf key) (quote :: behind) with
      | none => rfl
      | some value =>
        obtain ⟨after, rest, same, _⟩ := placeIs found
        have member : quote ∈ behind := by rw [same]; simp
        exact absurd member spaces.noQuote
    rw [Silent, List.nil_append, lookIn, valueOf, closing]
    exact noQuoteSilent spaces.noQuote
  | plain visible notQuote notBackslash more ih =>
    rw [Silent, List.cons_append, skipByte notQuote]
    exact ih
  | @escape byte rest known more ih =>
    rw [Silent, List.cons_append, skipByte (by decide), List.cons_append,
      escapePlace fun _ => bodyPlace plain more spaces]
    exact ih
  | @unicode a b c d rest hex more ih =>
    have hexNot : ∀ digit ∈ [a, b, c, d], digit ≠ quote := by
      rintro digit member rfl
      exact absurd (hex _ member) (by decide)
    have noQuote : quote ∉ [backslash, 0x75, a, b, c, d] := by
      intro member
      rcases List.mem_cons.mp member with isBackslash | member
      · exact absurd isBackslash (by decide)
      rcases List.mem_cons.mp member with isU | member
      · exact absurd isU (by decide)
      exact hexNot quote member rfl
    have skipped := @skipBytes key [backslash, 0x75, a, b, c, d] (rest ++ quote :: behind) noQuote
    exact skipped.trans ih

theorem stringSilent {body behind : Bytes} (plain : PlainKey key) (string : StringBody body) (spaces : Spaces behind) :
    Silent key (stringText body ++ behind) := by
  have split : stringText body ++ behind = quote :: (body ++ quote :: behind) := by simp [stringText]
  rw [Silent, split, lookIn, valueOf, bodyPlace plain string spaces]
  exact bodySilent plain string spaces

def Closes (key close : Bytes) : Prop :=
  close = [] ∨ ∃ byte rest, close = byte :: rest ∧ byte ∈ separators ∧ Silent key rest

theorem lookClosed (plain : PlainKey key) {close : Bytes} (closes : Closes key close) (text : Bytes) :
    lookIn (text ++ close) key = (lookIn text key).map fun value => value ++ close := by
  rcases closes with rfl | ⟨byte, rest, rfl, separator, silent⟩
  · rw [List.append_nil]
    cases lookIn text key <;> simp
  · rw [lookAppend plain separator]
    cases lookIn text key with
    | none => exact silent
    | some value => rfl

theorem joinedLook (plain : PlainKey key) {close : Bytes} (closes : Closes key close) {earlier later : List Bytes}
    {own : Bytes} (silent : ∀ piece ∈ earlier, Silent key piece) (found : lookIn own key = some value) :
    ∃ tail, lookIn (joined (earlier ++ own :: later) ++ close) key = some (value ++ tail) ∧
      (tail = close ∨ ∃ rest, tail = comma :: rest) := by
  induction earlier with
  | nil =>
    cases later with
    | nil =>
      refine ⟨close, ?_, Or.inl rfl⟩
      rw [List.nil_append, joined, lookClosed plain closes, found]
      rfl
    | cons next rest =>
      refine ⟨comma :: (joined (next :: rest) ++ close), ?_, Or.inr ⟨_, rfl⟩⟩
      rw [List.nil_append, joined, List.append_assoc, List.cons_append, lookAppend plain (by decide), found]
  | cons piece others ih =>
    obtain ⟨tail, looked, ends⟩ := ih fun other member => silent other (List.mem_cons_of_mem _ member)
    refine ⟨tail, ?_, ends⟩
    have quiet := silent piece List.mem_cons_self
    obtain ⟨next, rest, same⟩ : ∃ next rest, others ++ own :: later = next :: rest := by
      cases others with
      | nil => exact ⟨_, _, rfl⟩
      | cons first more => exact ⟨_, _, rfl⟩
    rw [same] at looked
    rw [Silent] at quiet
    rw [List.cons_append, same, joined, List.append_assoc, List.cons_append, lookAppend plain (by decide), quiet]
    exact looked

theorem joinedSilent (plain : PlainKey key) {close : Bytes} (closes : Closes key close) {pieces : List Bytes}
    (silent : ∀ piece ∈ pieces, Silent key piece) : Silent key (joined pieces ++ close) := by
  induction pieces with
  | nil =>
    have empty := lookClosed plain closes []
    rw [joined, Silent, empty]
    rfl
  | cons piece others ih =>
    have quiet := silent piece List.mem_cons_self
    rw [Silent] at quiet
    cases others with
    | nil => rw [joined, Silent, lookClosed plain closes, quiet, Option.map_none]
    | cons next rest =>
      have later := ih fun other member => silent other (List.mem_cons_of_mem _ member)
      rw [joined, Silent, List.append_assoc, List.cons_append, lookAppend plain (by decide), quiet]
      exact later

end PlatformRte.Config
