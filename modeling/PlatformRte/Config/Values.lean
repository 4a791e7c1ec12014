import PlatformRte.Config.KeySearch

/-! A value is read in the same way whatever follows it, as long as it ends where its text
ends: numbers, strings, and arrays of items that are read so. -/
namespace PlatformRte.Config
open Bytes

variable {text tail : Bytes}

def NotDigit (tail : Bytes) : Prop := ∀ next rest, tail = next :: rest → isDigit next = false

theorem noDigits (notDigit : NotDigit tail) : tail.takeWhile isDigit = [] ∧ tail.dropWhile isDigit = tail := by
  cases tail with
  | nil => exact ⟨rfl, rfl⟩
  | cons next rest =>
    have stops := notDigit next rest rfl
    exact ⟨List.takeWhile_cons_of_neg (by simp [stops]), List.dropWhile_cons_of_neg (by simp [stops])⟩

theorem digitsAlone (notDigit : NotDigit tail) : digitsOf (text ++ tail) = digitsOf text := by
  rw [digitsOf, digitsOf, List.takeWhile_append]
  split
  · rename_i whole
    rw [(noDigits notDigit).1, List.append_nil]
    exact ((List.takeWhile_prefix isDigit).eq_of_length whole).symm
  · rfl

theorem uintAlone (notDigit : NotDigit tail) : uintOf (text ++ tail) = uintOf text := by
  rw [uintOf, uintOf, digitsAlone notDigit]

def isNumberByte (byte : UInt8) : Bool := isDigit byte || decide (byte ∈ ascii "+-.eE")

theorem numberByteNot {byte : UInt8} (number : isNumberByte byte = true) :
    byte ≠ quote ∧ byte ≠ comma ∧ byte ≠ objectEnd ∧ isWs byte = false := by
  have others : ∀ byte ∈ ascii "+-.eE", byte ≠ quote ∧ byte ≠ comma ∧ byte ≠ objectEnd ∧ isWs byte = false :=
    eachByte (by decide)
  simp only [isNumberByte, Bool.or_eq_true, decide_eq_true_eq] at number
  rcases number with digit | mark
  · have apart {other : UInt8} (notDigit : isDigit other = false) : byte ≠ other := by
      rintro rfl
      rw [notDigit] at digit
      cases digit
    refine ⟨apart (by decide), apart (by decide), apart (by decide), ?_⟩
    cases ws : isWs byte
    · rfl
    · exact absurd rfl (apart (wsNot ws).2.2.1)
  · exact others byte mark

theorem numberBytes (number : JsonNumber text) : text ≠ [] ∧ ∀ byte ∈ text, isNumberByte byte = true := by
  obtain ⟨sign, whole, fraction, power, rfl, signs, wholes, _, fractions, powers⟩ := number.parts
  have ofDigits {digits : Bytes} (all : Digits digits) : ∀ byte ∈ digits, isNumberByte byte = true := by
    intro byte member
    rw [isNumberByte, all.2 byte member, Bool.true_or]
  have ofSign {sign : Bytes} (signs : sign ∈ [[], ascii "+", ascii "-"]) : ∀ byte ∈ sign, isNumberByte byte = true := by
    have each : ∀ sign ∈ [[], ascii "+", ascii "-"], sign.all isNumberByte = true := by decide
    exact List.all_eq_true.mp (each sign signs)
  have ofFraction : ∀ byte ∈ fraction, isNumberByte byte = true := by
    rcases fractions with rfl | ⟨digits, rfl, all⟩
    · simp
    · intro byte member
      rcases List.mem_cons.mp member with rfl | member
      · decide
      · exact ofDigits all byte member
  have ofPower : ∀ byte ∈ power, isNumberByte byte = true := by
    rcases powers with rfl | ⟨mark, sign, digits, rfl, marks, signs, all⟩
    · simp
    · have ofMark : ∀ byte ∈ ascii "eE", isNumberByte byte = true := List.all_eq_true.mp (by decide)
      intro byte member
      rcases List.mem_cons.mp member with rfl | member
      · exact ofMark _ marks
      · rcases List.mem_append.mp member with member | member
        · exact ofSign signs byte member
        · exact ofDigits all byte member
  constructor
  · simp [wholes.1]
  · intro byte member
    simp only [List.mem_append] at member
    rcases member with ((member | member) | member) | member
    · exact ofSign (by rcases signs with rfl | rfl <;> simp) byte member
    · exact ofDigits wholes byte member
    · exact ofFraction byte member
    · exact ofPower byte member

theorem closedNotDigit (closes : closed tail = true) : NotDigit tail := by
  rintro next rest rfl
  cases ws : isWs next
  · rw [closed, List.dropWhile_cons_of_neg (by simp [ws])] at closes
    rw [eq_of_beq closes]
    decide
  · exact (wsNot ws).2.2.1

theorem checkedAlone (number : JsonNumber text) (closes : closed tail = true) :
    uint32CheckedOf (text ++ tail) = uint32CheckedOf text := by
  have ends : closed ((text ++ tail).dropWhile isDigit) = closed (text.dropWhile isDigit) := by
    cases behind : text.dropWhile isDigit with
    | nil =>
      rw [List.dropWhile_append, behind]
      exact (congrArg closed (noDigits (closedNotDigit closes)).2).trans closes
    | cons next rest =>
      rw [List.dropWhile_append, behind]
      have member : next ∈ text := (List.dropWhile_sublist isDigit).subset (by rw [behind]; exact List.mem_cons_self)
      have notWs := (numberByteNot ((numberBytes number).2 next member)).2.2.2
      simp [closed, notWs]
  rw [uint32CheckedOf, uint32CheckedOf, digitsAlone (closedNotDigit closes), ends]

theorem shownAlone (body tail : Bytes) :
    (body ++ quote :: tail).takeWhile (fun byte => byte != quote) = body.takeWhile (fun byte => byte != quote) ∧
      ∃ rest, (body ++ quote :: tail).dropWhile (fun byte => byte != quote) = quote :: rest := by
  induction body with
  | nil => exact ⟨List.takeWhile_cons_of_neg (by simp), tail, List.dropWhile_cons_of_neg (by simp)⟩
  | cons first more ih =>
    obtain ⟨shown, rest, dropped⟩ := ih
    by_cases isQuote : first = quote
    · subst isQuote
      exact ⟨by simp, more ++ quote :: tail, by simp⟩
    · simp [isQuote, shown, dropped]

theorem textAlone (outSize : Nat) (string : JsonString text) : textOf outSize (text ++ tail) = textOf outSize text := by
  obtain ⟨body, _, rfl⟩ := string
  have read (tail : Bytes) : textOf outSize (stringText body ++ tail) =
      if outSize ≤ (body.takeWhile fun byte => byte != quote).length then none
      else some (body.takeWhile fun byte => byte != quote) := by
    obtain ⟨shown, rest, dropped⟩ := shownAlone body tail
    have split : stringText body ++ tail = quote :: (body ++ quote :: tail) := by simp [stringText]
    rw [textOf, split, stringOf, if_neg (by simp), shown, dropped]
    dsimp only
    split <;> rfl
  have alone := read []
  rw [List.append_nil] at alone
  rw [read tail, alone]

theorem stringAlone {body : Bytes} (noQuote : quote ∉ body) (outSize : Nat) (rest : Bytes) :
    stringOf outSize (stringText body ++ rest) =
      (if outSize ≤ body.length then none else some body).map fun text => (text, rest) := by
  obtain ⟨until_, from_⟩ := untilByte noQuote rest
  have split : stringText body ++ rest = quote :: (body ++ quote :: rest) := by simp [stringText]
  rw [split, stringOf, if_neg (by simp), until_, from_]
  dsimp only
  split <;> rfl

section Items
variable {ν α : Type} {itemText : ν → Bytes} {item : Bytes → Option (α × Bytes)} {meaning : ν → Option α}

def Reached (meaning : ν → Option α) (items : List (Spaced ν)) (room : Nat) (one : Spaced ν) : Prop :=
  ∃ earlier later, items = earlier ++ one :: later ∧ earlier.length < room ∧
    ∀ other ∈ earlier, (meaning other.value).isSome = true

theorem reachedMember {items : List (Spaced ν)} {room : Nat} {one : Spaced ν} (reached : Reached meaning items room one) :
    one ∈ items := by
  obtain ⟨earlier, later, rfl, -⟩ := reached
  exact List.mem_append_right _ List.mem_cons_self

theorem reachedFirst {one : Spaced ν} {rest : List (Spaced ν)} (room : Nat) :
    Reached meaning (one :: rest) (room + 1) one :=
  ⟨[], rest, rfl, Nat.succ_pos room, fun _ none_ => absurd none_ List.not_mem_nil⟩

theorem reachedLater {first one : Spaced ν} {rest : List (Spaced ν)} {room : Nat}
    (good : (meaning first.value).isSome = true) (reached : Reached meaning rest room one) :
    Reached meaning (first :: rest) (room + 1) one := by
  obtain ⟨earlier, later, rfl, few, each⟩ := reached
  refine ⟨first :: earlier, later, rfl, Nat.succ_lt_succ few, fun other member => ?_⟩
  rcases List.mem_cons.mp member with rfl | member
  · exact good
  · exact each other member

theorem reachedMap {f : ν → ν} (same : ∀ value, meaning (f value) = meaning value) {items : List (Spaced ν)} {room : Nat}
    {one : Spaced ν} (reached : Reached meaning (items.map (Spaced.map f)) room one) :
    ∃ original, Reached meaning items room original ∧ original.map f = one := by
  obtain ⟨earlier, later, split, few, each⟩ := reached
  obtain ⟨before, _, rfl, rfl, rest⟩ := List.map_eq_append_iff.mp split
  obtain ⟨original, behind, rfl, rfl, -⟩ := List.map_eq_cons_iff.mp rest
  refine ⟨original, ⟨before, behind, rfl, by rwa [List.length_map] at few, fun other member => ?_⟩, rfl⟩
  have good := each _ (List.mem_map_of_mem member)
  rwa [show ((other.map f).value) = f other.value from rfl, same] at good

structure ItemsRead (itemText : ν → Bytes) (item : Bytes → Option (α × Bytes)) (meaning : ν → Option α)
    (items : List (Spaced ν)) (room : Nat) : Prop where
  spaces : ∀ one ∈ items, SpacedOk one
  starts : ∀ one ∈ items, ∃ byte rest, itemText one.value = byte :: rest ∧ isWs byte = false ∧ byte ≠ arrayEnd
  reads : ∀ one, Reached meaning items room one → ∀ rest,
    item (itemText one.value ++ rest) = (meaning one.value).map fun value => (value, rest)

theorem afterCommaEnd {behind : Bytes} (spaces : Spaces behind) (tail : Bytes) :
    afterComma (behind ++ arrayEnd :: tail) = arrayEnd :: tail := by
  rw [afterComma, dropSpaces spaces, List.dropWhile_cons_of_neg (by decide)]
  exact if_neg (by decide)

theorem afterCommaNext {behind : Bytes} (spaces : Spaces behind) (rest : Bytes) :
    afterComma (behind ++ comma :: rest) = rest.dropWhile isWs := by
  rw [afterComma, dropSpaces spaces, List.dropWhile_cons_of_neg (by decide)]
  exact if_pos rfl

theorem itemsAlone {items : List (Spaced ν)} {room : Nat} (read : ItemsRead itemText item meaning items room)
    (tail : Bytes) :
    itemsOf item room ((joined (items.map (Spaced.text itemText)) ++ arrayEnd :: tail).dropWhile isWs) =
      if items.length ≤ room then items.mapM fun one => meaning one.value else none := by
  induction items generalizing room with
  | nil =>
    rw [List.map_nil, joined, List.nil_append, List.dropWhile_cons_of_neg (by decide), List.length_nil,
      if_pos (Nat.zero_le _)]
    cases room <;> exact if_pos rfl
  | cons one rest ih =>
    have spaces := read.spaces one List.mem_cons_self
    obtain ⟨byte, more, begins, notWs, notEnd⟩ := read.starts one List.mem_cons_self
    -- what follows the item, and where the next one is looked for
    obtain ⟨behind, text, next⟩ : ∃ behind,
        joined ((one :: rest).map (Spaced.text itemText)) ++ arrayEnd :: tail =
          one.before ++ (itemText one.value ++ behind) ∧
        afterComma behind = (joined (rest.map (Spaced.text itemText)) ++ arrayEnd :: tail).dropWhile isWs := by
      cases rest with
      | nil =>
        refine ⟨one.behind ++ arrayEnd :: tail, by simp [joined, Spaced.text], ?_⟩
        rw [afterCommaEnd spaces.behind, List.map_nil, joined, List.nil_append, List.dropWhile_cons_of_neg (by decide)]
      | cons following others =>
        refine ⟨one.behind ++ comma :: (joined ((following :: others).map (Spaced.text itemText)) ++ arrayEnd :: tail),
          by simp [joined, Spaced.text], ?_⟩
        exact afterCommaNext spaces.behind _
    have first : (itemText one.value ++ behind).dropWhile isWs = byte :: (more ++ behind) := by
      rw [begins, List.cons_append, List.dropWhile_cons_of_neg (by simp [notWs])]
    rw [text, dropSpaces spaces.before, first]
    cases room with
    | zero =>
      rw [if_neg (by simp)]
      exact if_neg notEnd
    | succ room =>
      simp only [itemsOf, if_neg notEnd]
      rw [← List.cons_append, ← begins, read.reads one (reachedFirst room)]
      cases found : meaning one.value with
      | none => simp [List.mapM_cons, found]
      | some value =>
        have good : (meaning one.value).isSome = true := by rw [found]; rfl
        have later : ItemsRead itemText item meaning rest room :=
          ⟨fun other member => read.spaces other (List.mem_cons_of_mem _ member),
            fun other member => read.starts other (List.mem_cons_of_mem _ member),
            fun other reached => read.reads other (reachedLater good reached)⟩
        simp only [Option.map_some, Option.bind_eq_bind, Option.bind_some, next, ih later, List.length_cons,
          Nat.add_le_add_iff_right, List.mapM_cons, found]
        by_cases few : rest.length ≤ room
        · rw [if_pos few, if_pos few]
          rfl
        · rw [if_neg few, if_neg few]
          rfl

theorem arrayAlone {items : List (Spaced ν)} {maxItems : Nat} (read : ItemsRead itemText item meaning items maxItems)
    {inner : Bytes} (spaces : Spaces inner) (tail : Bytes) :
    arrayOf item maxItems (arrayText inner (items.map (Spaced.text itemText)) ++ tail) =
      if items.length ≤ maxItems then items.mapM fun one => meaning one.value else none := by
  have split : arrayText inner (items.map (Spaced.text itemText)) ++ tail =
      arrayStart :: (inner ++ (joined (items.map (Spaced.text itemText)) ++ arrayEnd :: tail)) := by
    simp [arrayText]
  rw [split, arrayOf, if_neg (by simp), dropSpaces spaces]
  exact itemsAlone read tail

end Items
end PlatformRte.Config
