import LarkBot.Foundation.Toml
import LarkBot.Codex.Orchestration.Interaction

/-! # The notify override of Codex

The launcher hands Codex a `notify` command as a TOML value, and writes its parts as JSON texts.
A JSON text is a TOML basic string with one exception: TOML does not take the delete character as
it stands, and JSON does not escape it.
-/

namespace LarkBot

open Foundation

/-- `json.dumps`, with `ensure_ascii=False`, of a text. -/
def dumpsText (text : String) : List Char :=
  quotationMark :: text.toList.flatMap encodeChar ++ [quotationMark]

/-- `build_notify_override`. -/
def buildNotifyOverride (command : List String) : Except PyError String :=
  if command = [] ∨ "" ∈ command then
    .error (valueError "notify command must contain non-empty strings")
  else .ok (String.ofList ("notify=[".toList ++ [','].intercalate (command.map dumpsText) ++ [']']))

def deleteChar : Char := Char.ofNat 0x7F

section Reading

variable {char : Char} {text rest : List Char}

/-- The escape of a control character is read back by TOML. -/
private theorem hexChar_control : ∀ code < 0x20,
    Toml.hexChar ['0', '0', hexDigit (code / 16), hexDigit (code % 16)] =
      some (Char.ofNat code) := by
  decide

/-- Only the delete character is written as TOML does not read it. -/
theorem basicString_encodeChar (other : char ≠ deleteChar) :
    Toml.basicString (encodeChar char ++ rest) =
      Toml.prepend (some char) (Toml.basicString rest) := by
  have byCode : ∀ code, char.toNat = code → char = Char.ofNat code := by
    rintro _ rfl
    exact (Char.ofNat_toNat char).symm
  have short : ∀ {letter : Char}, letter ≠ 'u' → letter ≠ 'U' →
      Toml.shortEscape letter = some char → Toml.basicString ([backslash, letter] ++ rest) =
        Toml.prepend (some char) (Toml.basicString rest) := by
    intro letter lower upper means
    have read : Toml.basicString (Toml.escape :: letter :: rest) = _ :=
      Toml.basicString_short lower upper
    rw [means] at read
    exact read
  unfold encodeChar
  by_cases quoted : char = quotationMark
  · rw [if_pos quoted]
    exact short (by decide) (by decide) (by rw [quoted]; rfl)
  by_cases escaped : char = backslash
  · rw [if_neg quoted, if_pos escaped]
    exact short (by decide) (by decide) (by rw [escaped]; rfl)
  rw [if_neg quoted, if_neg escaped]
  by_cases lineFeed : char.toNat = 0x0A
  · rw [if_pos lineFeed]
    exact short (by decide) (by decide) (congrArg some (byCode _ lineFeed).symm)
  by_cases carriageReturn : char.toNat = 0x0D
  · rw [if_neg lineFeed, if_pos carriageReturn]
    exact short (by decide) (by decide) (congrArg some (byCode _ carriageReturn).symm)
  by_cases tab : char.toNat = 0x09
  · rw [if_neg lineFeed, if_neg carriageReturn, if_pos tab]
    exact short (by decide) (by decide) (congrArg some (byCode _ tab).symm)
  by_cases formFeed : char.toNat = 0x0C
  · rw [if_neg lineFeed, if_neg carriageReturn, if_neg tab, if_pos formFeed]
    exact short (by decide) (by decide) (congrArg some (byCode _ formFeed).symm)
  by_cases backspace : char.toNat = 0x08
  · rw [if_neg lineFeed, if_neg carriageReturn, if_neg tab, if_neg formFeed, if_pos backspace]
    exact short (by decide) (by decide) (congrArg some (byCode _ backspace).symm)
  rw [if_neg lineFeed, if_neg carriageReturn, if_neg tab, if_neg formFeed, if_neg backspace]
  by_cases control : char.toNat < 0x20
  · rw [if_pos control]
    have digits := hexChar_control char.toNat control
    rw [Char.ofNat_toNat] at digits
    rw [← digits]
    exact Toml.basicString_hex
  · rw [if_neg control]
    have legal : Toml.isIllegal char = false := by
      have last : char.toNat ≠ 0x7F := fun same => other (byCode _ same)
      simp only [Toml.isIllegal, control, last, decide_false, Bool.false_and, Bool.or_self]
    exact Toml.basicString_plain quoted escaped legal

/-- A delete character is left unescaped, and makes the string illegal. -/
theorem basicString_delete : Toml.basicString (encodeChar deleteChar ++ rest) = none :=
  Toml.basicString_illegal (by decide) (by decide) (by decide)

/-- What is read of the characters of a text, up to its closing quotation mark. -/
theorem basicString_text : Toml.basicString (text.flatMap encodeChar ++ quotationMark :: rest) =
    if deleteChar ∈ text then none else some (text, rest) := by
  induction text with
  | nil =>
      rw [if_neg List.not_mem_nil]
      exact Toml.basicString_quote
  | cons char text ih =>
      rw [List.flatMap_cons, List.append_assoc]
      by_cases deleted : char = deleteChar
      · rw [deleted, basicString_delete, if_pos List.mem_cons_self]
      · rw [basicString_encodeChar deleted, ih]
        have same : deleteChar ∈ char :: text ↔ deleteChar ∈ text := by
          rw [List.mem_cons, or_iff_right fun same => deleted same.symm]
        simp only [same]
        split
        next => rfl
        next => rfl

/-- No character is written with a quotation mark first. -/
theorem encodeChar_head (char : Char) :
    ∃ first more, encodeChar char = first :: more ∧ first ≠ quotationMark := by
  unfold encodeChar
  by_cases quoted : char = quotationMark
  · rw [if_pos quoted]
    exact ⟨_, _, rfl, by decide⟩
  rw [if_neg quoted]
  repeat' split
  all_goals first | exact ⟨_, _, rfl, quoted⟩ | exact ⟨_, _, rfl, by decide⟩

/-- A written text is read back, unless it holds a delete character. -/
theorem stringValue_dumpsText {part : String} (nonempty : part ≠ "") :
    Toml.stringValue (dumpsText part ++ rest) =
      if deleteChar ∈ part.toList then none else some (part.toList, rest) := by
  have chars : dumpsText part ++ rest =
      Toml.quote :: (part.toList.flatMap encodeChar ++ quotationMark :: rest) := by
    unfold dumpsText
    rw [List.append_assoc]
    rfl
  rw [chars, Toml.stringValue_quote, basicString_text]
  intro next found
  cases parts : part.toList with
  | nil => exact absurd (String.toList_eq_nil_iff.mp parts) nonempty
  | cons char text =>
      obtain ⟨first, more, written, unquoted⟩ := encodeChar_head char
      rw [parts, List.flatMap_cons, written] at found
      obtain rfl := Option.some.inj found
      exact unquoted

/-- A written text starts with a quotation mark, its escaped characters follow, and
another mark ends it. -/
theorem dumpsText_cons (text : String) :
    dumpsText text = Toml.quote :: (text.toList.flatMap encodeChar ++ [quotationMark]) := rfl

/-- Two parts stand on both sides of a comma. -/
theorem joined_parts (part next : String) (parts : List String) (rest : List Char) :
    ∃ more, [','].intercalate ((next :: parts).map dumpsText) ++ ']' :: rest =
        Toml.quote :: more ∧
      [','].intercalate ((part :: next :: parts).map dumpsText) ++ ']' :: rest =
        dumpsText part ++ ',' :: Toml.quote :: more := by
  refine ⟨[','].intercalate ((next.toList.flatMap encodeChar ++ [quotationMark]) ::
    parts.map dumpsText) ++ ']' :: rest, ?_, ?_⟩
  · rw [List.map_cons, dumpsText_cons, List.intercalate_cons_cons_left]
    rfl
  · rw [List.map_cons, List.map_cons, List.intercalate_cons_cons, dumpsText_cons next,
      List.intercalate_cons_cons_left, List.append_assoc, List.append_assoc]
    rfl

/-- The values of the array are the parts, unless one of them has a delete character. -/
theorem arrayValues_parts {parts : List String} (filled : parts ≠ []) (nonempty : "" ∉ parts)
    {bound : Nat} (enough : parts.length ≤ bound) :
    Toml.arrayValues bound ([','].intercalate (parts.map dumpsText) ++ ']' :: rest) =
      if ∃ part ∈ parts, deleteChar ∈ part.toList then none
      else some (parts.map String.toList, rest) := by
  induction parts generalizing bound with
  | nil => exact absurd rfl filled
  | cons part parts ih =>
      rw [List.mem_cons, not_or] at nonempty
      obtain ⟨first, others⟩ := nonempty
      obtain ⟨bound, rfl⟩ : ∃ smaller, bound = smaller + 1 :=
        Nat.exists_eq_succ_of_ne_zero (Nat.ne_of_gt (Nat.lt_of_lt_of_le (Nat.succ_pos _) enough))
      have read : ∀ more, Toml.stringValue (dumpsText part ++ more) =
          if deleteChar ∈ part.toList then none else some (part.toList, more) :=
        fun more => stringValue_dumpsText fun empty => first empty.symm
      cases parts with
      | nil =>
          rw [List.map_singleton, List.intercalate_singleton]
          by_cases deleted : deleteChar ∈ part.toList
          · have broken := read (']' :: rest)
            rw [if_pos deleted] at broken
            rw [Toml.arrayValues_none broken, if_pos ⟨part, List.mem_cons_self, deleted⟩]
          · have value := read (']' :: rest)
            rw [if_neg deleted] at value
            rw [Toml.arrayValues_last value, if_neg]
            · rfl
            · rintro ⟨other, member, found⟩
              rw [List.mem_singleton.mp member] at found
              exact deleted found
      | cons next parts =>
          obtain ⟨more, tail, whole⟩ := joined_parts part next parts rest
          have later := ih (List.cons_ne_nil _ _) others (Nat.le_of_succ_le_succ enough)
          rw [tail] at later
          rw [whole]
          by_cases deleted : deleteChar ∈ part.toList
          · have broken := read (',' :: Toml.quote :: more)
            rw [if_pos deleted] at broken
            rw [Toml.arrayValues_none broken, if_pos ⟨part, List.mem_cons_self, deleted⟩]
          · have value := read (',' :: Toml.quote :: more)
            rw [if_neg deleted] at value
            have same : (∃ other ∈ part :: next :: parts, deleteChar ∈ other.toList) ↔
                ∃ other ∈ next :: parts, deleteChar ∈ other.toList := by
              rw [List.exists_mem_cons_iff, or_iff_right deleted]
            rw [Toml.arrayValues_comma value, later]
            simp only [same]
            split
            next => rfl
            next => rfl

/-- No digit of an escape is a carriage return. -/
theorem hexDigit_unbroken : ∀ code < 0x20, hexDigit (code / 16) ≠ '\r' ∧
    hexDigit (code % 16) ≠ '\r' := by
  decide

/-- No carriage return is written as it stands. -/
theorem not_mem_encodeChar (char : Char) : '\r' ∉ encodeChar char := by
  unfold encodeChar
  split
  next => decide
  split
  next => decide
  split
  next => decide
  split
  next => decide
  next other =>
    split
    next => decide
    split
    next => decide
    split
    next => decide
    split
    next control =>
      obtain ⟨high, low⟩ := hexDigit_unbroken char.toNat control
      intro member
      simp only [List.mem_cons, List.not_mem_nil, or_false] at member
      rcases member with same | same | same | same | same | same
      · exact absurd same (by decide)
      · exact absurd same (by decide)
      · exact absurd same (by decide)
      · exact absurd same (by decide)
      · exact high same.symm
      · exact low same.symm
    next =>
      intro member
      exact other (congrArg Char.toNat (List.mem_singleton.mp member)).symm

/-- A written text has no carriage return. -/
theorem not_mem_dumpsText (part : String) : '\r' ∉ dumpsText part := by
  intro member
  rcases List.mem_cons.mp member with same | inside
  · exact absurd same (by decide)
  · rcases List.mem_append.mp inside with body | last
    · obtain ⟨char, _, written⟩ := List.mem_flatMap.mp body
      exact not_mem_encodeChar char written
    · exact absurd (List.mem_singleton.mp last) (by decide)

/-- Written texts with commas between them have no carriage return. -/
theorem not_mem_joined (parts : List String) :
    '\r' ∉ [','].intercalate (parts.map dumpsText) := by
  induction parts with
  | nil => exact List.not_mem_nil
  | cons part parts ih =>
      cases parts with
      | nil =>
          rw [List.map_singleton, List.intercalate_singleton]
          exact not_mem_dumpsText part
      | cons next parts =>
          rw [List.map_cons, List.map_cons, List.intercalate_cons_cons]
          intro member
          rcases List.mem_append.mp member with before | after
          · rcases List.mem_append.mp before with inside | comma
            · exact not_mem_dumpsText part inside
            · exact absurd (List.mem_singleton.mp comma) (by decide)
          · exact ih after

/-- Every part adds a character. -/
theorem length_le_joined (parts : List String) :
    parts.length ≤ ([','].intercalate (parts.map dumpsText)).length := by
  induction parts with
  | nil => exact Nat.zero_le _
  | cons part parts ih =>
      cases parts with
      | nil =>
          rw [List.map_singleton, List.intercalate_singleton, dumpsText_cons]
          exact Nat.succ_le_succ (Nat.zero_le _)
      | cons next parts =>
          rw [List.map_cons] at ih
          rw [List.map_cons, List.map_cons, List.intercalate_cons_cons, List.length_append,
            List.length_append, List.length_cons, List.length_singleton]
          omega

/-- The array of the parts is read as a whole. -/
theorem decodeStringArray_parts {parts : List String} (filled : parts ≠ [])
    (nonempty : "" ∉ parts) :
    Toml.decodeStringArray ('[' :: ([','].intercalate (parts.map dumpsText) ++ [']'])) =
      if ∃ part ∈ parts, deleteChar ∈ part.toList then none
      else some (parts.map String.toList) := by
  have plain : '\r' ∉ '[' :: ([','].intercalate (parts.map dumpsText) ++ [']']) := by
    intro member
    rcases List.mem_cons.mp member with same | inside
    · exact absurd same (by decide)
    · rcases List.mem_append.mp inside with body | last
      · exact not_mem_joined parts body
      · exact absurd (List.mem_singleton.mp last) (by decide)
  have enough : parts.length ≤ ([','].intercalate (parts.map dumpsText) ++ [']']).length := by
    rw [List.length_append]
    exact Nat.le_add_right_of_le (length_le_joined parts)
  have values : Toml.arrayValues _ ([','].intercalate (parts.map dumpsText) ++ ']' :: []) = _ :=
    arrayValues_parts filled nonempty enough
  obtain ⟨more, first⟩ : ∃ more, [','].intercalate (parts.map dumpsText) ++ [']'] =
      Toml.quote :: more := by
    cases parts with
    | nil => exact absurd rfl filled
    | cons part parts =>
        rw [List.map_cons, dumpsText_cons, List.intercalate_cons_cons_left]
        exact ⟨_, rfl⟩
  unfold Toml.decodeStringArray
  rw [Toml.normalizeLineEnds_eq plain]
  rw [first] at values ⊢
  have dense : Toml.skipBlanks false (Toml.quote :: more) = some (Toml.quote :: more) :=
    Toml.skipBlanks_plain (by decide) (by decide) (by decide)
  have whole : Toml.stringArray (Toml.quote :: more) =
      Toml.arrayValues (Toml.quote :: more).length (Toml.quote :: more) := by
    unfold Toml.stringArray
    rw [dense]
    rfl
  change (Toml.stringArray (Toml.quote :: more)).bind _ = _
  rw [whole, values]
  split
  next => rfl
  next => rfl

end Reading

/-- The value that the override gives to `notify`. -/
theorem buildNotifyOverride_eq {command : List String} (filled : command ≠ [])
    (nonempty : "" ∉ command) {value : String} :
    buildNotifyOverride command = .ok ("notify=" ++ value) ↔
      value.toList = '[' :: ([','].intercalate (command.map dumpsText) ++ [']']) := by
  unfold buildNotifyOverride
  rw [if_neg (not_or.mpr ⟨filled, nonempty⟩), Except.ok.injEq, ← String.toList_inj,
    String.toList_ofList, String.toList_append, List.append_assoc]
  have split : "notify=[".toList = "notify=".toList ++ ['['] := by decide
  rw [split, List.append_assoc, List.append_cancel_left_eq, eq_comm]
  rfl

/-- The value of the override is read back as the command exactly when the command has no delete
character. -/
theorem notify_override_decodes {command : List String} (filled : command ≠ [])
    (nonempty : "" ∉ command) :
    (∃ value, buildNotifyOverride command = .ok ("notify=" ++ value) ∧
        Toml.decodeStringArray value.toList = some (command.map String.toList)) ↔
      ∀ part ∈ command, deleteChar ∉ part.toList := by
  have decoded := decodeStringArray_parts filled nonempty
  constructor
  · rintro ⟨value, built, read⟩ part member deleted
    rw [(buildNotifyOverride_eq filled nonempty).mp built, decoded,
      if_pos ⟨part, member, deleted⟩] at read
    cases read
  · intro undeleted
    refine ⟨String.ofList ('[' :: ([','].intercalate (command.map dumpsText) ++ [']'])),
      (buildNotifyOverride_eq filled nonempty).mpr String.toList_ofList, ?_⟩
    rw [String.toList_ofList, decoded, if_neg]
    rintro ⟨part, member, deleted⟩
    exact undeleted part member deleted

/-- A path with quotation marks, a line end and a control character is read back. -/
theorem quoted_path_decodes : ∃ value,
    buildNotifyOverride ["C:\\Python \"3\"\n\x01", "codex-hook"] = .ok ("notify=" ++ value) ∧
      Toml.decodeStringArray value.toList =
        some (["C:\\Python \"3\"\n\x01", "codex-hook"].map String.toList) :=
  (notify_override_decodes (by decide) (by decide)).mpr (by decide)

/-- A delete character makes the override unreadable. -/
theorem delete_not_decoded : ["\x7f"] ≠ [] ∧ "" ∉ ["\x7f"] ∧
    ¬ ∃ value, buildNotifyOverride ["\x7f"] = .ok ("notify=" ++ value) ∧
      Toml.decodeStringArray value.toList = some (["\x7f"].map String.toList) := by
  refine ⟨by decide, by decide, ?_⟩
  rintro ⟨value, built, read⟩
  rw [(buildNotifyOverride_eq (by decide) (by decide)).mp built] at read
  exact absurd read (by decide)

end LarkBot
