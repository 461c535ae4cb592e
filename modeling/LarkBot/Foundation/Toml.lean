import Mathlib.Data.List.Basic

/-! # TOML arrays of basic strings

A reader for the part of TOML 1.0 in which every value is a basic string on one line, or an array
of such strings. It reads the characters from a position on and gives what it read with the rest;
blanks, line ends and comments may stand around the values of an array.
-/

namespace Foundation.Toml

def quote : Char := Char.ofNat 0x22

def escape : Char := Char.ofNat 0x5C

/-- A control character other than the tab, which no basic string and no comment may contain. -/
def isIllegal (char : Char) : Bool :=
  (decide (char.toNat < 0x20) && decide (char.toNat ≠ 0x09)) || decide (char.toNat = 0x7F)

/-- The value of a hexadecimal digit. -/
def hexDigitValue (digit : Char) : Option Nat :=
  let code := digit.toNat
  if 0x30 ≤ code ∧ code ≤ 0x39 then some (code - 0x30)
  else if 0x41 ≤ code ∧ code ≤ 0x46 then some (code - 0x41 + 10)
  else if 0x61 ≤ code ∧ code ≤ 0x66 then some (code - 0x61 + 10)
  else none

/-- The Unicode scalar value that the digits of an escape name. -/
def hexChar (digits : List Char) : Option Char :=
  (digits.mapM hexDigitValue).bind fun values =>
    let code := values.foldl (fun number value => 16 * number + value) 0
    if code ≤ 0xD7FF ∨ (0xE000 ≤ code ∧ code ≤ 0x10FFFF) then some (Char.ofNat code) else none

/-- The character that a short escape stands for. -/
def shortEscape (char : Char) : Option Char :=
  if char = 'b' then some (Char.ofNat 0x08)
  else if char = 't' then some (Char.ofNat 0x09)
  else if char = 'n' then some (Char.ofNat 0x0A)
  else if char = 'f' then some (Char.ofNat 0x0C)
  else if char = 'r' then some (Char.ofNat 0x0D)
  else if char = quote then some quote
  else if char = escape then some escape
  else none

/-- Put a character, if there is one, before the string that was read. -/
def prepend (char : Option Char) (read : Option (List Char × List Char)) :
    Option (List Char × List Char) :=
  char.bind fun char => read.map fun read => (char :: read.1, read.2)

/-- The rest of a basic string, after its opening quotation mark. -/
def basicString : List Char → Option (List Char × List Char)
  | [] => none
  | char :: rest =>
      if char = quote then some ([], rest)
      else if char = escape then
        match rest with
        | 'u' :: a :: b :: c :: d :: rest => prepend (hexChar [a, b, c, d]) (basicString rest)
        | 'U' :: a :: b :: c :: d :: e :: f :: g :: h :: rest =>
            prepend (hexChar [a, b, c, d, e, f, g, h]) (basicString rest)
        | char :: rest => prepend (shortEscape char) (basicString rest)
        | [] => none
      else if isIllegal char then none
      else prepend (some char) (basicString rest)

/-- A value that is a basic string on one line; three quotation marks open another kind. -/
def stringValue : List Char → Option (List Char × List Char)
  | [] => none
  | char :: rest =>
      if char = quote ∧ ¬ [quote, quote] <+: rest then basicString rest else none

/-- What follows blanks, line ends and comments. -/
def skipBlanks (inComment : Bool) : List Char → Option (List Char)
  | [] => some []
  | char :: rest =>
      if char = '\n' then skipBlanks false rest
      else if inComment then if isIllegal char then none else skipBlanks true rest
      else if char = ' ' ∨ char = '\t' then skipBlanks false rest
      else if char = '#' then skipBlanks true rest
      else some (char :: rest)

/-- The values of an array from one of them on; a value is longer than nothing, so the length of
the text bounds their number. -/
def arrayValues : Nat → List Char → Option (List (List Char) × List Char)
  | 0, _ => none
  | bound + 1, text =>
      (stringValue text).bind fun value => (skipBlanks false value.2).bind fun rest =>
        match rest with
        | ']' :: rest => some ([value.1], rest)
        | ',' :: rest => (skipBlanks false rest).bind fun rest =>
            match rest with
            | ']' :: rest => some ([value.1], rest)
            | rest => (arrayValues bound rest).map fun read => (value.1 :: read.1, read.2)
        | _ => none

/-- The strings of an array, after its opening bracket. -/
def stringArray (text : List Char) : Option (List (List Char) × List Char) :=
  (skipBlanks false text).bind fun rest =>
    match rest with
    | ']' :: rest => some ([], rest)
    | rest => arrayValues rest.length rest

/-- A reader takes the two characters of a line end for one. -/
def normalizeLineEnds : List Char → List Char
  | '\r' :: '\n' :: rest => '\n' :: normalizeLineEnds rest
  | char :: rest => char :: normalizeLineEnds rest
  | [] => []

/-- The strings of a text that is an array of basic strings. -/
def decodeStringArray (text : List Char) : Option (List (List Char)) :=
  match normalizeLineEnds text with
  | '[' :: rest => (stringArray rest).bind fun read => if read.2 = [] then some read.1 else none
  | _ => none

section Reading

variable {char : Char} {rest text : List Char} {bound : Nat}

/-- A quotation mark ends the string. -/
theorem basicString_quote : basicString (quote :: rest) = some ([], rest) := by
  rw [basicString.eq_def]
  exact if_pos rfl

/-- Any other character that needs no escape stands for itself. -/
theorem basicString_plain (unquoted : char ≠ quote) (unescaped : char ≠ escape)
    (legal : isIllegal char = false) :
    basicString (char :: rest) = prepend (some char) (basicString rest) := by
  rw [basicString.eq_def]
  dsimp only
  rw [if_neg unquoted, if_neg unescaped, legal, if_neg Bool.false_ne_true]

/-- A control character that is not escaped makes the string illegal. -/
theorem basicString_illegal (unquoted : char ≠ quote) (unescaped : char ≠ escape)
    (illegal : isIllegal char) : basicString (char :: rest) = none := by
  rw [basicString.eq_def]
  dsimp only
  rw [if_neg unquoted, if_neg unescaped, if_pos illegal]

/-- An escape of one letter stands for the character that the letter names. -/
theorem basicString_short (short : char ≠ 'u') (single : char ≠ 'U') :
    basicString (escape :: char :: rest) = prepend (shortEscape char) (basicString rest) := by
  rw [basicString.eq_def]
  dsimp only
  rw [if_neg (by decide), if_pos rfl]
  split
  next same => exact absurd (List.cons.inj same).1 short
  next same => exact absurd (List.cons.inj same).1 single
  next same =>
    obtain ⟨rfl, rfl⟩ := List.cons.inj same
    rfl
  next same => cases same

/-- An escape of four digits stands for the character with that code. -/
theorem basicString_hex {a b c d : Char} : basicString (escape :: 'u' :: a :: b :: c :: d :: rest) =
    prepend (hexChar [a, b, c, d]) (basicString rest) := by
  rw [basicString.eq_def]
  dsimp only
  rw [if_neg (by decide), if_pos rfl]
  rfl

/-- A string whose first character is no quotation mark is a basic one. -/
theorem stringValue_quote (opens : ∀ next ∈ rest.head?, next ≠ quote) :
    stringValue (quote :: rest) = basicString rest := by
  refine if_pos ⟨rfl, ?_⟩
  rintro ⟨more, rfl⟩
  exact opens quote rfl rfl

/-- Nothing is skipped before a character that starts a value. -/
theorem skipBlanks_plain (unbroken : char ≠ '\n') (dense : char ≠ ' ' ∧ char ≠ '\t')
    (noComment : char ≠ '#') : skipBlanks false (char :: rest) = some (char :: rest) := by
  unfold skipBlanks
  rw [if_neg unbroken, if_neg Bool.false_ne_true, if_neg (not_or.mpr dense), if_neg noComment]

/-- The last value of an array. -/
theorem arrayValues_last {value : List Char} (read : stringValue text = some (value, ']' :: rest)) :
    arrayValues (bound + 1) text = some ([value], rest) := by
  unfold arrayValues
  rw [read, Option.bind_some, skipBlanks_plain (by decide) (by decide) (by decide)]
  rfl

/-- A value of an array with another one right behind its comma. -/
theorem arrayValues_comma {value : List Char}
    (read : stringValue text = some (value, ',' :: quote :: rest)) :
    arrayValues (bound + 1) text =
      (arrayValues bound (quote :: rest)).map fun read => (value :: read.1, read.2) := by
  rw [arrayValues.eq_def]
  dsimp only
  have dense : skipBlanks false (quote :: rest) = some (quote :: rest) :=
    skipBlanks_plain (by decide) (by decide) (by decide)
  rw [read, Option.bind_some, skipBlanks_plain (by decide) (by decide) (by decide)]
  simp only [Option.bind_some, dense]
  rfl

/-- An array is illegal where one of its strings is. -/
theorem arrayValues_none (broken : stringValue text = none) : arrayValues bound text = none := by
  cases bound with
  | zero => rfl
  | succ bound =>
      unfold arrayValues
      rw [broken, Option.bind_none]

/-- A text without carriage returns is read as it stands. -/
theorem normalizeLineEnds_eq (plain : '\r' ∉ text) : normalizeLineEnds text = text := by
  induction text with
  | nil => rfl
  | cons char rest ih =>
      rw [List.mem_cons, not_or] at plain
      have first : normalizeLineEnds (char :: rest) = char :: normalizeLineEnds rest := by
        rw [normalizeLineEnds.eq_def]
        split
        next same => exact absurd (List.cons.inj same).1.symm plain.1
        next same =>
          obtain ⟨rfl, rfl⟩ := List.cons.inj same
          rfl
        next same => cases same
      rw [first, ih plain.2]

end Reading

end Foundation.Toml
