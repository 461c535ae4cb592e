import Mathlib.Data.List.Perm.Basic
import LarkBot.Lark.Answers
import LarkBot.Lark.LineScan
import LarkBot.Lark.Render

/-! # Replies that are read back

A reply to several questions has a line for each, with the number or the id of the question. Read
line by line, it gives back the answers. A mention at the start of a line is stripped with the white
space before it, which is the end of the line before: the two lines become one, and the reply is
refused (`LarkBot.numbered_reply_iff`). A number comes before an id, so that a question whose id
is the number of another one gets the answer of that one (`LarkBot.keyed_reply_iff`).
-/

namespace LarkBot

open Foundation

section Lines

/-- A character that ends no line is the first of its line. -/
theorem splitLines_cons {char : Char} (inside : isLineBoundary char = false) (rest : List Char) :
    splitLines (char :: rest) = match splitLines rest with
      | [] => [[char]]
      | line :: lines => (char :: line) :: lines := by
  have other : ∀ tail, char = '\r' → rest = '\n' :: tail → False := by
    intro tail same
    rw [same] at inside
    exact absurd inside (by decide)
  have step := splitLines.eq_3 char rest other
  rw [if_neg (Bool.eq_false_iff.mp inside)] at step
  exact step

/-- A line is read up to its end. -/
theorem splitLines_line {line : List Char} (unbroken : Unbroken line) (rest : List Char) :
    splitLines (line ++ '\n' :: rest) = line :: splitLines rest := by
  induction line with
  | nil =>
      have other : ∀ tail, '\n' = '\r' → rest = '\n' :: tail → False := by
        intro tail same
        exact absurd same (by decide)
      rw [List.nil_append, splitLines.eq_3 '\n' rest other, if_pos (by decide)]
  | cons char line ih =>
      rw [List.cons_append, splitLines_cons (unbroken char List.mem_cons_self),
        ih fun other member => unbroken other (List.mem_cons_of_mem _ member)]

/-- A text without the end of a line is one line. -/
theorem splitLines_last {line : List Char} (unbroken : Unbroken line) (nonempty : line ≠ []) :
    splitLines line = [line] := by
  induction line with
  | nil => exact (nonempty rfl).elim
  | cons char line ih =>
      rw [splitLines_cons (unbroken char List.mem_cons_self)]
      cases line with
      | nil => rfl
      | cons second line =>
          rw [ih (fun other member => unbroken other (List.mem_cons_of_mem _ member))
            (List.cons_ne_nil _ _)]

/-- Lines that are joined are split again. -/
theorem splitLines_joinLines {lines : List (List Char)} (unbroken : ∀ line ∈ lines, Unbroken line)
    (nonempty : ∀ line ∈ lines, line ≠ []) : splitLines (joinLines lines) = lines := by
  induction lines with
  | nil => rfl
  | cons line lines ih =>
      cases lines with
      | nil =>
          rw [joinLines, List.intercalate_singleton]
          exact splitLines_last (unbroken line List.mem_cons_self)
            (nonempty line List.mem_cons_self)
      | cons second lines =>
          rw [joinLines_cons_cons, splitLines_line (unbroken line List.mem_cons_self),
            ih (fun other member => unbroken other (List.mem_cons_of_mem _ member))
              fun other member => nonempty other (List.mem_cons_of_mem _ member)]

/-- A text has at most one line more than it has ends of lines. -/
theorem length_splitLines_le (text : List Char) :
    (splitLines text).length ≤ text.countP isLineBoundary + 1 := by
  induction text using splitLines.induct with
  | case1 => exact Nat.zero_le _
  | case2 rest ih =>
      rw [splitLines, List.length_cons, List.countP_cons_of_pos (by decide),
        List.countP_cons_of_pos (by decide)]
      omega
  | case3 char rest other boundary ih =>
      rw [splitLines.eq_3 char rest other, if_pos boundary, List.length_cons,
        List.countP_cons_of_pos boundary]
      omega
  | case4 char rest other inside ended ih =>
      rw [splitLines.eq_3 char rest other, if_neg inside, ended, List.length_singleton]
      exact Nat.le_add_left _ _
  | case5 char rest other inside line lines split ih =>
      rw [split] at ih
      rw [splitLines.eq_3 char rest other, if_neg inside, split, List.countP_cons_of_neg inside]
      exact ih

end Lines

section Numbers

/-- The characters of a number are digits of `\d` that stand for themselves. -/
theorem decimalValue_of_isDigit {char : Char} (digit : char.isDigit) :
    decimalValue char = some (char.toNat - '0'.toNat) := by
  obtain ⟨low, high⟩ := Char.isDigit_iff_toNat.mp digit
  have zeros : decimalZeros = '0'.toNat :: decimalZeros.tail := rfl
  have first : (decide ('0'.toNat ≤ char.toNat) && decide (char.toNat ≤ '0'.toNat + 9)) = true := by
    rw [Bool.and_eq_true, decide_eq_true_eq, decide_eq_true_eq]
    exact ⟨low, high⟩
  unfold decimalValue
  rw [zeros, List.find?_cons, first]
  rfl

/-- Digits are read as their values. -/
theorem mapM_decimalValue_of_isDigit {text : List Char} (digits : ∀ char ∈ text, char.isDigit) :
    text.mapM decimalValue = some (text.map fun char => char.toNat - '0'.toNat) := by
  induction text with
  | nil => rfl
  | cons char rest ih =>
      rw [List.mapM_cons, decimalValue_of_isDigit (digits char List.mem_cons_self),
        ih fun other member => digits other (List.mem_cons_of_mem _ member)]
      rfl

/-- The key of the question at a position. -/
def positionKey (position : Nat) : List Char := Nat.toDigits 10 (position + 1)

/-- The number of a question is written in digits. -/
theorem positionKey_digit (position : Nat) : ∀ char ∈ positionKey position, char.isDigit :=
  fun _ member => Nat.isDigit_of_mem_toDigits (by decide) (by decide) member

/-- The number of a question is not empty. -/
theorem positionKey_ne_nil (position : Nat) : positionKey position ≠ [] :=
  List.length_pos_iff.mp Nat.length_toDigits_pos

/-- An ASCII digit is a decimal character. -/
theorem isDecimalChar_of_isDigit {char : Char} (digit : char.isDigit) : isDecimalChar char := by
  unfold isDecimalChar
  rw [decimalValue_of_isDigit digit]
  rfl

/-- `int` reads a number that is not too long. -/
theorem parseInt_positionKey {position : Nat} (number : IsNumber (positionKey position)) :
    parseInt (positionKey position) = .ok (position + 1) := by
  have whole : (positionKey position).takeWhile isDecimalChar = positionKey position :=
    List.takeWhile_eq_self_iff.mpr fun char member =>
      isDecimalChar_of_isDigit (positionKey_digit position char member)
  unfold parseInt
  rw [whole, mapM_decimalValue_of_isDigit (positionKey_digit position)]
  dsimp only
  rw [if_neg (Nat.not_lt.mpr number.2), List.foldl_map]
  exact congrArg Except.ok Nat.ofDigitChars_ten_toDigits

/-- A number that Python reads is not too long for it. -/
theorem isNumber_of_parseInt {position value : Nat}
    (read : parseInt (positionKey position) = .ok value) : IsNumber (positionKey position) := by
  have decimals : ∀ char ∈ positionKey position, isDecimalChar char :=
    fun char member => isDecimalChar_of_isDigit (positionKey_digit position char member)
  refine ⟨List.all_eq_true.mpr decimals, ?_⟩
  by_contra long
  unfold parseInt at read
  rw [List.takeWhile_eq_self_iff.mpr decimals] at read
  dsimp only at read
  rw [if_pos (Nat.not_le.mp long)] at read
  cases read

/-- The number of a question passes `isdigit`. -/
theorem isDigit_positionKey (position : Nat) : isDigit (positionKey position) := by
  unfold isDigit
  rw [Bool.and_eq_true, List.all_eq_true]
  refine ⟨?_, fun char member => ?_⟩
  · rw [List.isEmpty_eq_false_iff.mpr (positionKey_ne_nil position)]
    rfl
  · unfold isDigitChar
    rw [isDecimalChar_of_isDigit (positionKey_digit position char member)]
    rfl

end Numbers

section Mentions

/-- A mention with these digits, and the space after it. -/
def mentionToken (digits : List Char) : List Char := mentionPrefix ++ (digits ++ [' '])

/-- What `\d+` matches. -/
structure MentionDigits (digits : List Char) : Prop where
  nonempty : digits ≠ []
  decimal : ∀ char ∈ digits, isDecimalChar char

/-- A text without a mention after white space. -/
def MentionFree : List Char → Prop
  | [] => True
  | char :: rest => (isSpaceChar char → mentionLength rest = none) ∧ MentionFree rest

/-- After its prefix a mention takes all digits that follow, unless a word goes on after
them. -/
theorem mentionLength_prefixed (more : List Char) : mentionLength (mentionPrefix ++ more) =
    if (more.takeWhile isDecimalChar).isEmpty || (more.dropWhile isDecimalChar).head?.any isWordChar
    then none else some (mentionPrefix.length + (more.takeWhile isDecimalChar).length) := by
  have starts : mentionPrefix.isPrefixOf (mentionPrefix ++ more) :=
    List.isPrefixOf_iff_prefix.mpr (List.prefix_append _ _)
  have left : (mentionPrefix ++ more).drop (mentionPrefix.length +
      (more.takeWhile isDecimalChar).length) = more.dropWhile isDecimalChar := by
    rw [List.drop_append, List.drop_eq_nil_of_le (Nat.le_add_right _ _), List.nil_append,
      Nat.add_sub_cancel_left]
    conv => lhs; rhs; rw [← List.takeWhile_append_dropWhile (p := isDecimalChar) (l := more)]
    exact List.drop_left
  unfold mentionLength
  rw [if_pos starts, List.drop_left]
  dsimp only
  rw [left]

/-- A text without the prefix starts no mention. -/
theorem mentionLength_of_not_prefixed {text : List Char} (other : ¬ mentionPrefix <+: text) :
    mentionLength text = none := by
  unfold mentionLength
  rw [if_neg fun starts => other (List.isPrefixOf_iff_prefix.mp starts)]

/-- A mention and the space after it are found with the length of its digits. -/
theorem mentionLength_token {digits : List Char} (valid : MentionDigits digits) (rest : List Char) :
    mentionLength (mentionToken digits ++ rest) = some (mentionPrefix.length + digits.length) := by
  have stops : StopsAt isDecimalChar (' ' :: rest) := stopsAt_cons (by decide)
  have whole : mentionToken digits ++ rest = mentionPrefix ++ (digits ++ ' ' :: rest) := by
    unfold mentionToken
    rw [List.append_assoc, List.append_assoc, List.singleton_append]
  rw [whole, mentionLength_prefixed, takeWhile_append_of_all valid.decimal stops,
    dropWhile_append_of_all valid.decimal stops, List.isEmpty_eq_false_iff.mpr valid.nonempty]
  rw [List.head?_cons, Option.any_some]
  exact if_neg (by decide)

/-- The end of a line ends a mention, and starts none. -/
theorem mentionLength_newline (text rest : List Char) :
    mentionLength (text ++ '\n' :: rest) = mentionLength text := by
  by_cases starts : mentionPrefix <+: text
  · obtain ⟨more, rfl⟩ := starts
    have stops : StopsAt isDecimalChar ('\n' :: rest) := stopsAt_cons (by decide)
    rw [List.append_assoc, mentionLength_prefixed, mentionLength_prefixed,
      takeWhile_append_of_stopsAt more stops, dropWhile_append_of_stopsAt more stops]
    have ended : ((more.dropWhile isDecimalChar ++ '\n' :: rest).head?).any isWordChar =
        ((more.dropWhile isDecimalChar).head?).any isWordChar := by
      cases more.dropWhile isDecimalChar with
      | nil =>
          have newline : isWordChar '\n' = false := by decide
          exact newline
      | cons char after => rfl
    rw [ended]
  · rw [mentionLength_of_not_prefixed starts]
    apply mentionLength_of_not_prefixed
    intro longer
    rcases List.prefix_or_prefix_of_prefix longer (List.prefix_append text _) with shorter | within
    · exact starts shorter
    · obtain ⟨tail, same⟩ := within
      rw [← same, List.prefix_append_right_inj] at longer
      cases tail with
      | nil =>
          rw [List.append_nil] at same
          exact starts (same ▸ List.prefix_refl _)
      | cons char tail =>
          obtain ⟨rfl, _⟩ := List.cons_prefix_cons.mp longer
          have member : '\n' ∈ mentionPrefix := by
            rw [← same]
            exact List.mem_append_right _ List.mem_cons_self
          exact absurd member (by decide)

/-- Two lines without mentions make a text without, when the second starts none. -/
theorem MentionFree.append_newline {first second : List Char} (before : MentionFree first)
    (start : mentionLength second = none) (after : MentionFree second) :
    MentionFree (first ++ '\n' :: second) := by
  induction first with
  | nil => exact ⟨fun _ => start, after⟩
  | cons char first ih =>
      refine ⟨fun space => ?_, ih before.2⟩
      exact (mentionLength_newline first second).trans (before.1 space)

/-- A mention comes after white space, so a text without it may go before. -/
theorem MentionFree.append_spaceless {first second : List Char}
    (spaceless : ∀ char ∈ first, isSpaceChar char = false) (after : MentionFree second) :
    MentionFree (first ++ second) := by
  induction first with
  | nil => exact after
  | cons char first ih =>
      refine ⟨fun space => ?_, ih fun other member =>
        spaceless other (List.mem_cons_of_mem _ member)⟩
      rw [spaceless char List.mem_cons_self] at space
      cases space

/-- A text without mentions is left as it is. -/
theorem replaceMentions_of_free {text : List Char} (free : MentionFree text) :
    replaceMentions 0 text = text := by
  induction text with
  | nil => rfl
  | cons char rest ih =>
      unfold replaceMentions
      by_cases space : isSpaceChar char
      · rw [if_pos space, free.1 space, ih free.2]
      · rw [if_neg space, ih free.2]

/-- What a mention covers is skipped. -/
theorem replaceMentions_skip (skipped rest : List Char) :
    replaceMentions skipped.length (skipped ++ rest) = replaceMentions 0 rest := by
  induction skipped with
  | nil => rfl
  | cons char skipped ih => exact ih

/-- Mentions at the start of what follows a space are replaced by spaces. -/
theorem replaceMentions_tokens {mentions : List (List Char)}
    (valid : ∀ digits ∈ mentions, MentionDigits digits) {text : List Char}
    (start : mentionLength text = none) (free : MentionFree text) :
    replaceMentions 0 (' ' :: (mentions.flatMap mentionToken ++ text)) =
      List.replicate (mentions.length + 1) ' ' ++ text := by
  have space : isSpaceChar ' ' = true := by decide
  induction mentions with
  | nil =>
      rw [List.flatMap_nil, List.nil_append]
      exact replaceMentions_of_free ⟨fun _ => start, free⟩
  | cons digits mentions ih =>
      have here := valid digits List.mem_cons_self
      have later := ih fun other member => valid other (List.mem_cons_of_mem _ member)
      have length : mentionPrefix.length + digits.length = (mentionPrefix ++ digits).length :=
        (List.length_append).symm
      have whole : mentionToken digits ++ (mentions.flatMap mentionToken ++ text) =
          (mentionPrefix ++ digits) ++ ' ' :: (mentions.flatMap mentionToken ++ text) := by
        unfold mentionToken
        rw [List.append_assoc, List.append_assoc, List.append_assoc, List.singleton_append]
      rw [List.flatMap_cons, List.append_assoc]
      conv => lhs; unfold replaceMentions
      rw [if_pos space, mentionLength_token here]
      dsimp only
      rw [whole, length, replaceMentions_skip, later]
      rfl

/-- Spaces at the start of a text are stripped. -/
theorem strip_spaces (count : Nat) (text : List Char) :
    strip (List.replicate count ' ' ++ text) = strip text := by
  have spaces : ∀ char ∈ List.replicate count ' ', isSpaceChar char := by
    intro char member
    rw [List.eq_of_mem_replicate member]
    decide
  unfold strip
  rw [List.dropWhile_append_of_pos spaces]

/-- Mentions before a text that has none are stripped with their spaces. -/
theorem stripMentions_tokens {mentions : List (List Char)}
    (valid : ∀ digits ∈ mentions, MentionDigits digits) {text : List Char}
    (start : mentionLength text = none) (free : MentionFree text) :
    stripMentions (mentions.flatMap mentionToken ++ text) = strip text := by
  cases mentions with
  | nil =>
      unfold stripMentions
      rw [List.flatMap_nil, List.nil_append, start]
      dsimp only
      rw [replaceMentions_of_free free]
  | cons digits mentions =>
      have spaced := replaceMentions_tokens valid start free
      have here := valid digits List.mem_cons_self
      unfold replaceMentions at spaced
      rw [if_pos (by decide), List.flatMap_cons, List.append_assoc, mentionLength_token
        here] at spaced
      unfold stripMentions
      rw [List.flatMap_cons, List.append_assoc, mentionLength_token here]
      dsimp only at spaced ⊢
      rw [spaced, strip_spaces]

/-- A decimal character ends no line. -/
theorem isLineBoundary_of_isDecimalChar {char : Char} (decimal : isDecimalChar char) :
    isLineBoundary char = false := by
  have apart : ∀ code ∈ [0xA, 0xB, 0xC, 0xD, 0x1C, 0x1D, 0x1E, 0x85, 0x2028, 0x2029],
      (decimalZeros.any fun first => decide (first ≤ code) && decide (code ≤ first + 9)) =
      false := by
    decide
  rw [Bool.eq_false_iff]
  intro boundary
  have listed : char.toNat ∈ [0xA, 0xB, 0xC, 0xD, 0x1C, 0x1D, 0x1E, 0x85, 0x2028, 0x2029] := by
    unfold isLineBoundary at boundary
    simp only [Bool.or_eq_true, Bool.and_eq_true, decide_eq_true_eq, beq_iff_eq] at boundary
    simp only [List.mem_cons, List.not_mem_nil, or_false]
    omega
  unfold isDecimalChar decimalValue at decimal
  rw [Option.isSome_map, List.find?_isSome] at decimal
  have none := List.any_eq_false.mp (apart char.toNat listed)
  obtain ⟨first, member, inside⟩ := decimal
  exact none first member inside

/-- A mention has no end of a line. -/
theorem mention_unbroken {text : List Char} {length : Nat}
    (found : mentionLength text = some length) :
    Unbroken (text.take length) := by
  by_cases starts : mentionPrefix <+: text
  · obtain ⟨more, rfl⟩ := starts
    rw [mentionLength_prefixed] at found
    split at found
    next => cases found
    next =>
      cases found
      rw [List.take_append, List.take_of_length_le (Nat.le_add_right _ _), Nat.add_sub_cancel_left]
      refine Unbroken.append ?_ fun char member => ?_
      · intro char member
        have every : mentionPrefix.all (fun char => isLineBoundary char == false) := by decide
        exact beq_iff_eq.mp (List.all_eq_true.mp every char member)
      · have digits : more.take (more.takeWhile isDecimalChar).length =
            more.takeWhile isDecimalChar :=
          (List.prefix_iff_eq_take.mp (List.takeWhile_prefix _)).symm
        rw [digits] at member
        exact isLineBoundary_of_isDecimalChar (List.mem_takeWhile_imp member)
  · rw [mentionLength_of_not_prefixed starts] at found
    cases found

/-- A mention ends before the end of its line. -/
theorem mention_ends_before {before after : List Char} {char : Char} {length : Nat}
    (boundary : isLineBoundary char)
    (found : mentionLength (before ++ char :: after) = some length) :
    length ≤ before.length := by
  by_contra late
  have member : char ∈ (before ++ char :: after).take length := by
    rw [List.take_append]
    apply List.mem_append_right _
    obtain ⟨more, same⟩ : ∃ more, length - before.length = more + 1 :=
      ⟨length - before.length - 1, by omega⟩
    rw [same, List.take_succ_cons]
    exact List.mem_cons_self
  rw [mention_unbroken found char member] at boundary
  cases boundary

/-- Replacing mentions adds no line. -/
theorem countP_replaceMentions_le (text : List Char) (skipped : Nat) :
    (replaceMentions skipped text).countP isLineBoundary ≤
      (text.drop skipped).countP isLineBoundary := by
  induction text generalizing skipped with
  | nil => exact Nat.zero_le _
  | cons char rest ih =>
      cases skipped with
      | succ skipped => exact ih skipped
      | zero =>
          rw [List.drop_zero]
          unfold replaceMentions
          split
          next space =>
            cases mentionLength rest with
            | none =>
                dsimp only
                rw [List.countP_cons, List.countP_cons]
                exact Nat.add_le_add_right (ih 0) _
            | some length =>
                dsimp only
                rw [List.countP_cons_of_neg (by decide), List.countP_cons]
                have less := (List.drop_sublist length rest).countP_le (p := isLineBoundary)
                have bound := ih length
                omega
          next =>
            rw [List.countP_cons, List.countP_cons]
            exact Nat.add_le_add_right (ih 0) _

/-- A mention at the start of a line joins it to the line before. -/
theorem countP_replaceMentions_lt {char : Char} {after : List Char} (boundary : isLineBoundary char)
    (mentioned : (mentionLength after).isSome) (text before : List Char) (skipped : Nat)
    (split : text.drop skipped = before ++ char :: after) :
    (replaceMentions skipped text).countP isLineBoundary <
      (text.drop skipped).countP isLineBoundary := by
  induction text generalizing skipped before with
  | nil =>
      rw [List.drop_nil] at split
      exact (List.cons_ne_nil _ _ (List.append_eq_nil_iff.mp split.symm).2).elim
  | cons first rest ih =>
      cases skipped with
      | succ skipped => exact ih before skipped split
      | zero =>
          rw [List.drop_zero] at split ⊢
          unfold replaceMentions
          cases before with
          | nil =>
              obtain ⟨rfl, rfl⟩ := List.cons.inj split
              obtain ⟨length, found⟩ := Option.isSome_iff_exists.mp mentioned
              rw [if_pos (isSpaceChar_of_boundary boundary), found]
              dsimp only
              rw [List.countP_cons_of_neg (by decide), List.countP_cons_of_pos boundary]
              have less := (List.drop_sublist length rest).countP_le (p := isLineBoundary)
              have bound := countP_replaceMentions_le rest length
              omega
          | cons other before =>
              rw [List.cons_append] at split
              obtain ⟨rfl, rfl⟩ := List.cons.inj split
              split
              next space =>
                cases found : mentionLength (before ++ char :: after) with
                | none =>
                    dsimp only
                    rw [List.countP_cons, List.countP_cons]
                    exact Nat.add_lt_add_right (ih before 0 rfl) _
                | some length =>
                    dsimp only
                    have shorter := ih (before.drop length) length
                      (List.drop_append_of_le_length (mention_ends_before boundary found))
                    rw [List.countP_cons_of_neg (by decide), List.countP_cons]
                    have less := (List.drop_sublist length (before ++ char :: after)).countP_le
                      (p := isLineBoundary)
                    omega
              next =>
                rw [List.countP_cons, List.countP_cons]
                exact Nat.add_lt_add_right (ih before 0 rfl) _

/-- A mention at the start of a line but the first takes an end of a line away. -/
theorem countP_stripMentions_lt {before after : List Char} {char : Char}
    (boundary : isLineBoundary char) (mentioned : (mentionLength after).isSome) :
    (stripMentions (before ++ char :: after)).countP isLineBoundary <
      (before ++ char :: after).countP isLineBoundary := by
  have stripped : ∀ text : List Char,
      (strip text).countP isLineBoundary ≤ text.countP isLineBoundary := by
    intro text
    unfold strip
    exact ((List.rdropWhile_prefix _ _).sublist.trans (List.dropWhile_suffix _).sublist).countP_le
  unfold stripMentions
  apply Nat.lt_of_le_of_lt (stripped _)
  cases found : mentionLength (before ++ char :: after) with
  | none => exact countP_replaceMentions_lt boundary mentioned _ before 0 rfl
  | some length =>
      dsimp only
      have shorter := countP_replaceMentions_lt boundary mentioned (before ++ char :: after)
        (before.drop length) length
        (List.drop_append_of_le_length (mention_ends_before boundary found))
      have less := (List.drop_sublist length (before ++ char :: after)).countP_le
        (p := isLineBoundary)
      rw [List.countP_cons_of_neg (by decide)]
      omega

end Mentions

section Joined

/-- Lines are joined in two groups with the end of a line between them. -/
theorem joinLines_append {first second : List (List Char)} (before : first ≠ [])
    (after : second ≠ []) :
    joinLines (first ++ second) = joinLines first ++ '\n' :: joinLines second := by
  induction first with
  | nil => exact (before rfl).elim
  | cons line first ih =>
      cases first with
      | nil =>
          obtain ⟨next, second, rfl⟩ := List.exists_cons_of_ne_nil after
          rw [List.singleton_append, joinLines_cons_cons]
          conv => rhs; rw [joinLines, List.intercalate_singleton]
      | cons next first =>
          rw [List.cons_append, List.cons_append, joinLines_cons_cons, ← List.cons_append,
            ih (List.cons_ne_nil _ _), joinLines_cons_cons, List.append_assoc, List.cons_append]

/-- Joined lines have one end of a line less than there are lines. -/
theorem countP_joinLines {lines : List (List Char)} (unbroken : ∀ line ∈ lines, Unbroken line)
    (nonempty : lines ≠ []) : (joinLines lines).countP isLineBoundary + 1 = lines.length := by
  have none : ∀ {line : List Char}, Unbroken line → line.countP isLineBoundary = 0 := by
    intro line plain
    apply List.countP_eq_zero.mpr
    intro char member
    rw [plain char member]
    exact Bool.false_ne_true
  induction lines with
  | nil => exact (nonempty rfl).elim
  | cons line lines ih =>
      have here := unbroken line List.mem_cons_self
      cases lines with
      | nil =>
          rw [joinLines, List.intercalate_singleton, none here]
          rfl
      | cons second lines =>
          have later := ih (fun other member => unbroken other (List.mem_cons_of_mem _ member))
            (List.cons_ne_nil _ _)
          rw [joinLines_cons_cons, List.countP_append, none here,
            List.countP_cons_of_pos (by decide), Nat.zero_add, later]
          rfl

/-- A text has nothing to strip exactly when neither its first nor its last character is
white space. -/
theorem strip_eq_self_iff {text : List Char} : strip text = text ↔
    (∀ char ∈ text.head?, isSpaceChar char = false) ∧
      ∀ char ∈ text.getLast?, isSpaceChar char = false := by
  have start : text.dropWhile isSpaceChar = text ↔ ∀ char ∈ text.head?, isSpaceChar char =
      false := by
    cases text with
    | nil => exact iff_of_true rfl fun _ absent => by cases absent
    | cons first rest =>
        rw [List.dropWhile_eq_self_iff]
        constructor
        · rintro plain _ ⟨⟩
          exact Bool.eq_false_iff.mpr (plain (Nat.succ_pos _))
        · exact fun plain _ => Bool.eq_false_iff.mp (plain first rfl)
  have finish : text.rdropWhile isSpaceChar = text ↔
      ∀ char ∈ text.getLast?, isSpaceChar char = false := by
    rw [List.rdropWhile_eq_self_iff]
    constructor
    · intro plain char last
      obtain ⟨before, rfl⟩ := List.getLast?_eq_some_iff.mp last
      have ends := plain (by exact List.append_ne_nil_of_right_ne_nil _ (List.cons_ne_nil _ _))
      rw [List.getLast_concat] at ends
      exact Bool.eq_false_iff.mpr ends
    · exact fun plain nonempty => Bool.eq_false_iff.mp
        (plain _ (List.getLast?_eq_some_getLast nonempty))
  rw [← start, ← finish]
  unfold strip
  constructor
  · intro same
    have shorter : text.length ≤ (text.dropWhile isSpaceChar).length := by
      conv => lhs; rw [← same]
      exact (List.rdropWhile_prefix _ _).length_le
    have whole : text.dropWhile isSpaceChar = text :=
      (List.dropWhile_suffix _).eq_of_length_le shorter
    rw [whole] at same
    exact ⟨whole, same⟩
  · rintro ⟨before, after⟩
    rw [before, after]

/-- Lines without white space around them are one text without white space around it. -/
theorem strip_joinLines {lines : List (List Char)} (nonempty : ∀ line ∈ lines, line ≠ [])
    (stripped : ∀ line ∈ lines, strip line = line) : strip (joinLines lines) = joinLines lines := by
  rw [strip_eq_self_iff]
  constructor
  · cases lines with
    | nil => exact fun _ absent => by cases absent
    | cons line lines =>
        obtain ⟨tail, joined⟩ := joinLines_cons lines
        rw [joined, List.head?_append_of_ne_nil _ (nonempty line List.mem_cons_self)]
        exact (strip_eq_self_iff.mp (stripped line List.mem_cons_self)).1
  · induction lines with
    | nil => exact fun _ absent => by cases absent
    | cons line lines ih =>
        cases lines with
        | nil =>
            rw [joinLines, List.intercalate_singleton]
            exact (strip_eq_self_iff.mp (stripped line List.mem_cons_self)).2
        | cons second lines =>
            have later := ih (fun other member => nonempty other (List.mem_cons_of_mem _ member))
              fun other member => stripped other (List.mem_cons_of_mem _ member)
            have some : joinLines (second :: lines) ≠ [] := by
              obtain ⟨tail, joined⟩ := joinLines_cons lines
              rw [joined]
              exact List.append_ne_nil_of_left_ne_nil
                (nonempty second (List.mem_cons_of_mem _ List.mem_cons_self)) _
            rw [joinLines_cons_cons, List.getLast?_append_of_ne_nil _ (List.cons_ne_nil _ _),
              List.getLast?_cons_of_ne_nil some]
            exact later

/-- Lines that neither start nor contain a mention make a text that does neither. -/
theorem mentionFree_joinLines {lines : List (List Char)}
    (start : ∀ line ∈ lines, mentionLength line = none) (free : ∀ line ∈ lines, MentionFree line) :
    mentionLength (joinLines lines) = none ∧ MentionFree (joinLines lines) := by
  induction lines with
  | nil => exact ⟨mentionLength_of_not_prefixed (by decide), trivial⟩
  | cons line lines ih =>
      have first := start line List.mem_cons_self
      have here := free line List.mem_cons_self
      cases lines with
      | nil =>
          rw [joinLines, List.intercalate_singleton]
          exact ⟨first, here⟩
      | cons second lines =>
          have later := ih (fun other member => start other (List.mem_cons_of_mem _ member))
            fun other member => free other (List.mem_cons_of_mem _ member)
          rw [joinLines_cons_cons]
          exact ⟨(mentionLength_newline line _).trans first, here.append_newline later.1 later.2⟩

end Joined

section Replies

/-- A line of a reply: the digits of the mentions at its start, its key and its answer. -/
structure ReplyLine where
  mentions : List (List Char)
  key : List Char
  answer : List Char

def ReplyLine.content (line : ReplyLine) : List Char := line.key ++ ':' :: ' ' :: line.answer

def ReplyLine.text (line : ReplyLine) : List Char :=
  line.mentions.flatMap mentionToken ++ line.content

/-- A text on one line, without white space around it. -/
structure PlainText (text : List Char) : Prop where
  nonempty : text ≠ []
  stripped : strip text = text
  unbroken : Unbroken text

/-- A single character that is no white space is plain text. -/
theorem plainText_singleton {char : Char} (inside : isLineBoundary char = false)
    (stripped : strip [char] = [char]) : PlainText [char] := by
  refine ⟨List.cons_ne_nil _ _, stripped, fun other member => ?_⟩
  rw [List.mem_singleton.mp member]
  exact inside

/-- The key and the answer of a line can be told apart. -/
structure ReplyLine.Plain (line : ReplyLine) : Prop where
  key : PlainText line.key
  colonless : ':' ∉ line.key
  answer : PlainText line.answer

variable {questionIds : List String}

/-- A plain line is split into its key and its answer. -/
theorem ReplyLine.Plain.parts {line : ReplyLine} (plain : line.Plain) :
    lineParts line.content = some (line.key, String.ofList line.answer) := by
  have stops : StopsAt (· != ':') (':' :: ' ' :: line.answer) := stopsAt_cons (by decide)
  have inside : ∀ char ∈ line.key, (char != ':') = true := by
    intro char member
    rw [bne_iff_ne]
    rintro rfl
    exact plain.colonless member
  have colon : ':' ∈ line.content := List.mem_append_right _ List.mem_cons_self
  have spaced : strip (' ' :: line.answer) = line.answer :=
    (strip_spaces 1 line.answer).trans plain.answer.stripped
  unfold lineParts splitColon
  rw [if_pos colon]
  unfold ReplyLine.content
  rw [takeWhile_append_of_all inside stops, dropWhile_append_of_all inside stops, Option.map_some,
    List.tail_cons, spaced, plain.key.stripped]

/-- A plain line whose key names a question is read as the answer to it. -/
theorem ReplyLine.Plain.read {line : ReplyLine} {questionId : String} (plain : line.Plain)
    (named : keyQuestion questionIds line.key = .ok (some questionId)) :
    lineAnswer questionIds line.content = some (questionId, String.ofList line.answer) := by
  refine lineAnswer_of_parts plain.parts named fun empty => plain.answer.nonempty ?_
  rw [← String.toList_ofList (l := line.answer), empty]
  rfl

/-- The content of a plain line has no end of a line. -/
theorem ReplyLine.Plain.unbroken {line : ReplyLine} (plain : line.Plain) :
    Unbroken line.content := by
  apply plain.key.unbroken.append
  intro char member
  rcases List.mem_cons.mp member with rfl | later
  · decide
  · rcases List.mem_cons.mp later with rfl | inside
    · decide
    · exact plain.answer.unbroken char inside

/-- The content of a plain line has nothing to strip. -/
theorem ReplyLine.Plain.stripped {line : ReplyLine} (plain : line.Plain) :
    strip line.content = line.content := by
  have key := strip_eq_self_iff.mp plain.key.stripped
  have answer := strip_eq_self_iff.mp plain.answer.stripped
  rw [strip_eq_self_iff]
  unfold ReplyLine.content
  constructor
  · rw [List.head?_append_of_ne_nil _ plain.key.nonempty]
    exact key.1
  · rw [List.getLast?_append_of_ne_nil _ (List.cons_ne_nil _ _),
      List.getLast?_cons_of_ne_nil (List.cons_ne_nil _ _),
      List.getLast?_cons_of_ne_nil plain.answer.nonempty]
    exact answer.2

/-- The content of a line has at least its colon. -/
theorem ReplyLine.content_ne_nil (line : ReplyLine) : line.content ≠ [] :=
  List.append_ne_nil_of_right_ne_nil _ (List.cons_ne_nil _ _)

/-- A list of two questions or more starts with two. -/
theorem exists_two (several : 2 ≤ questionIds.length) :
    ∃ first second rest, questionIds = first :: second :: rest := by
  cases questionIds with
  | nil => exact absurd several (Nat.not_succ_le_zero 1)
  | cons first rest =>
      cases rest with
      | nil => exact absurd several (Nat.not_succ_le_self 1)
      | cons second rest => exact ⟨first, second, rest, rfl⟩

/-- Lines that answer every question are read as those answers. -/
theorem parseAnswers_contents {Line : Type} {lines : List Line} {shown : Line → ReplyLine}
    {named : Line → String} (several : 2 ≤ questionIds.length)
    (plain : ∀ line ∈ lines, (shown line).Plain)
    (keyed : ∀ line ∈ lines, keyQuestion questionIds (shown line).key = .ok (some (named line)))
    (ordered : (lines.map named).Perm questionIds) (distinct : questionIds.Nodup) :
    parseAnswers (joinLines (lines.map fun line => (shown line).content)) questionIds =
      .ok (some (lines.map fun line => (named line, String.ofList (shown line).answer))) := by
  have keys : (lines.map fun line => (named line, String.ofList (shown line).answer)).map Prod.fst =
      lines.map named := by
    rw [List.map_map]
    rfl
  have unbroken : ∀ text ∈ lines.map fun line => (shown line).content, Unbroken text := by
    intro text member
    obtain ⟨line, listed, rfl⟩ := List.mem_map.mp member
    exact (plain line listed).unbroken
  have nonempty : ∀ text ∈ lines.map fun line => (shown line).content, text ≠ [] := by
    intro text member
    obtain ⟨line, _, rfl⟩ := List.mem_map.mp member
    exact (shown line).content_ne_nil
  have read : (lines.map fun line => (shown line).content).map (lineAnswer questionIds) =
      (lines.map fun line => (named line, String.ofList (shown line).answer)).map some := by
    rw [List.map_map, List.map_map]
    exact List.map_congr_left fun line member => (plain line member).read (keyed line member)
  have parsed : parseLines questionIds [] (splitLines (joinLines (lines.map fun line =>
      (shown line).content))) =
        .ok (some (lines.map fun line => (named line, String.ofList (shown line).answer))) := by
    rw [splitLines_joinLines unbroken nonempty]
    apply parseLines_of_answers read
    rw [List.nil_append, keys]
    exact ordered.nodup_iff.mpr distinct
  have all : answersAll questionIds
      (lines.map fun line => (named line, String.ofList (shown line).answer)) := by
    unfold answersAll
    rw [keys, Bool.and_eq_true, List.all_eq_true, List.all_eq_true]
    exact ⟨fun id member => List.contains_iff_mem.mpr (ordered.mem_iff.mpr member),
      fun id member => List.contains_iff_mem.mpr (ordered.mem_iff.mp member)⟩
  have text : joinLines (lines.map fun line => (shown line).content) ≠ [] := by
    intro empty
    cases lines with
    | nil =>
        have length := ordered.length_eq
        rw [List.map_nil, List.length_nil] at length
        omega
    | cons line lines =>
        obtain ⟨tail, joined⟩ := joinLines_cons (lines.map fun line => (shown line).content)
        rw [List.map_cons, joined] at empty
        exact (shown line).content_ne_nil (List.append_eq_nil_iff.mp empty).1
  obtain ⟨first, second, rest, rfl⟩ := exists_two several
  unfold parseAnswers
  rw [if_neg text]
  dsimp only
  rw [parsed]
  change Except.ok (Option.filter _ _) = _
  rw [Option.filter_some, if_pos all]

/-- A reply to several questions is read as one answer a line. -/
theorem parseAnswers_lines {text : List Char} {answers : List (String × String)}
    (several : 2 ≤ questionIds.length)
    (parsed : parseAnswers text questionIds = .ok (some answers)) :
    (splitLines text).map (lineAnswer questionIds) = answers.map some := by
  obtain ⟨first, second, rest, rfl⟩ := exists_two several
  unfold parseAnswers at parsed
  split at parsed
  next => cases parsed
  next =>
    dsimp only at parsed
    cases read : parseLines (first :: second :: rest) [] (splitLines text) with
    | error error =>
        rw [read] at parsed
        cases parsed
    | ok found =>
        rw [read] at parsed
        obtain ⟨rfl, _⟩ := Option.filter_eq_some_iff.mp (Except.ok.inj parsed)
        obtain ⟨more, rfl, same, _⟩ := parseLines_ok read List.nodup_nil
        exact same

/-- A mention starts with a sign of its own. -/
theorem mentionLength_of_head {char : Char} {rest : List Char} (other : char ≠ '@') :
    mentionLength (char :: rest) = none := by
  apply mentionLength_of_not_prefixed
  intro starts
  have sign : mentionPrefix = '@' :: mentionPrefix.tail := rfl
  rw [sign] at starts
  exact other (List.cons_prefix_cons.mp starts).1.symm

/-- A digit is no white space. -/
theorem isSpaceChar_of_isDigit {char : Char} (digit : char.isDigit) : isSpaceChar char = false := by
  obtain ⟨low, high⟩ := Char.isDigit_iff_toNat.mp digit
  have first : '0'.toNat = 48 := rfl
  have last : '9'.toNat = 57 := rfl
  rw [Bool.eq_false_iff]
  intro space
  unfold isSpaceChar at space
  simp only [Bool.or_eq_true, Bool.and_eq_true, decide_eq_true_eq, beq_iff_eq] at space
  omega

/-- A digit ends no line. -/
theorem isLineBoundary_of_isDigit {char : Char} (digit : char.isDigit) : isLineBoundary char =
    false :=
  isLineBoundary_of_isDecimalChar (isDecimalChar_of_isDigit digit)

/-- The number of a question is plain text. -/
theorem plainText_positionKey (position : Nat) : PlainText (positionKey position) where
  nonempty := positionKey_ne_nil position
  stripped := strip_eq_self_iff.mpr
    ⟨fun char first => isSpaceChar_of_isDigit
      (positionKey_digit position char (List.mem_of_mem_head? first)),
      fun char last => isSpaceChar_of_isDigit
        (positionKey_digit position char (List.mem_of_getLast? last))⟩
  unbroken := fun char member => isLineBoundary_of_isDigit (positionKey_digit position char member)

/-- A number in the range of the questions is the number of a question. -/
theorem keyQuestion_positionKey {position : Nat} {questionId : String}
    (number : IsNumber (positionKey position)) (listed : questionIds[position]? = some questionId) :
    keyQuestion questionIds (positionKey position) = .ok (some questionId) := by
  unfold keyQuestion numberedQuestion
  rw [if_pos (isDigit_positionKey position), parseInt_positionKey number]
  change Except.ok _ = _
  dsimp only
  rw [if_pos (Nat.le_add_left 1 position), Nat.add_sub_cancel, listed]

/-- A line that answers the question at a position. -/
structure NumberedLine where
  mentions : List (List Char)
  position : Nat
  answer : List Char

def NumberedLine.line (line : NumberedLine) : ReplyLine :=
  ⟨line.mentions, positionKey line.position, line.answer⟩

/-- The answer of a line, and its question. -/
def NumberedLine.entry (questionIds : List String) (line : NumberedLine) : String × String :=
  (questionIds.getD line.position "", String.ofList line.answer)

/-- The lines of a reply that answers each of so many questions once, with mentions before the
numbers only. -/
structure NumberedReply (questions : Nat) (lines : List NumberedLine) : Prop where
  positions : (lines.map NumberedLine.position).Perm (List.range questions)
  mentions : ∀ line ∈ lines, ∀ digits ∈ line.mentions, MentionDigits digits
  answers : ∀ line ∈ lines, PlainText line.answer
  mentionFree : ∀ line ∈ lines, MentionFree (' ' :: line.answer)

def numberedText (lines : List NumberedLine) : List Char :=
  joinLines (lines.map fun line => line.line.text)

section Numbered

variable {questions : Nat} {lines : List NumberedLine}

/-- Every line of a numbered reply is plain, mentions aside. -/
theorem NumberedReply.plain (reply : NumberedReply questions lines) :
    ∀ line ∈ lines, line.line.Plain := by
  intro line member
  refine ⟨plainText_positionKey line.position, fun colon => ?_, reply.answers line member⟩
  exact absurd (positionKey_digit line.position ':' colon) (by decide)

/-- Every line of a numbered reply lies on one line, its mentions included. -/
theorem NumberedReply.text_unbroken (reply : NumberedReply questions lines) :
    ∀ line ∈ lines, Unbroken line.line.text := by
  intro line member
  refine Unbroken.append ?_ (reply.plain line member).unbroken
  intro char inside
  obtain ⟨digits, listed, here⟩ := List.mem_flatMap.mp inside
  rcases List.mem_append.mp here with sign | later
  · have every : mentionPrefix.all (fun char => isLineBoundary char == false) := by decide
    exact beq_iff_eq.mp (List.all_eq_true.mp every char sign)
  · rcases List.mem_append.mp later with digit | space
    · exact isLineBoundary_of_isDecimalChar ((reply.mentions line member digits listed).decimal char
        digit)
    · rw [List.mem_singleton.mp space]
      decide

/-- A line without its mentions has none. -/
theorem NumberedReply.bare (reply : NumberedReply questions lines) :
    ∀ line ∈ lines, mentionLength line.line.content = none ∧ MentionFree line.line.content := by
  intro line member
  obtain ⟨digit, key, same⟩ := List.exists_cons_of_ne_nil (positionKey_ne_nil line.position)
  have spaceless : ∀ char ∈ positionKey line.position, isSpaceChar char = false :=
    fun char digit => isSpaceChar_of_isDigit (positionKey_digit line.position char digit)
  have number : digit.isDigit := by
    apply positionKey_digit line.position digit
    rw [same]
    exact List.mem_cons_self
  have whole : line.line.content = positionKey line.position ++ ':' :: ' ' :: line.answer := rfl
  rw [whole]
  constructor
  · rw [same, List.cons_append]
    apply mentionLength_of_head
    rintro rfl
    exact absurd number (by decide)
  · refine MentionFree.append_spaceless spaceless ⟨fun space => ?_, reply.mentionFree line member⟩
    exact absurd space (by decide)

/-- Without mentions, or with mentions on the first line only, the lines are left. -/
theorem NumberedReply.stripped (reply : NumberedReply questions lines)
    (alone : ∀ line ∈ lines.tail, line.mentions = []) :
    stripMentions (numberedText lines) = joinLines (lines.map fun line => line.line.content) := by
  have nonempty : ∀ text ∈ lines.map fun line => line.line.content, text ≠ [] := by
    intro text member
    obtain ⟨line, _, rfl⟩ := List.mem_map.mp member
    exact line.line.content_ne_nil
  have stripped : ∀ text ∈ lines.map fun line => line.line.content, strip text = text := by
    intro text member
    obtain ⟨line, listed, rfl⟩ := List.mem_map.mp member
    exact (reply.plain line listed).stripped
  have free : mentionLength (joinLines (lines.map fun line => line.line.content)) = none ∧
      MentionFree (joinLines (lines.map fun line => line.line.content)) := by
    refine mentionFree_joinLines (fun text member => ?_) fun text member => ?_
    · obtain ⟨line, listed, rfl⟩ := List.mem_map.mp member
      exact (reply.bare line listed).1
    · obtain ⟨line, listed, rfl⟩ := List.mem_map.mp member
      exact (reply.bare line listed).2
  have bare : ∀ {line : NumberedLine}, line.mentions = [] → line.line.text = line.line.content := by
    intro line none
    unfold ReplyLine.text
    have mentions : line.line.mentions = [] := none
    rw [mentions, List.flatMap_nil, List.nil_append]
  have texts : ∃ mentions : List (List Char), (∀ digits ∈ mentions, MentionDigits digits) ∧
      numberedText lines = mentions.flatMap mentionToken ++
        joinLines (lines.map fun line => line.line.content) := by
    unfold numberedText
    cases lines with
    | nil => exact ⟨[], fun _ absent => (List.not_mem_nil absent).elim, rfl⟩
    | cons first rest =>
        refine ⟨first.mentions, reply.mentions first List.mem_cons_self, ?_⟩
        have same : (rest.map fun line => line.line.text) = rest.map fun line =>
            line.line.content :=
          List.map_congr_left fun line member => bare (alone line member)
        rw [List.map_cons, List.map_cons, same]
        have start : first.line.text = first.mentions.flatMap mentionToken ++ first.line.content :=
          rfl
        obtain ⟨tail, joined⟩ := joinLines_cons (rest.map fun line => line.line.content)
        rw [start, joined, joined, List.append_assoc]
  obtain ⟨mentions, valid, whole⟩ := texts
  rw [whole, stripMentions_tokens valid free.1 free.2]
  exact strip_joinLines nonempty stripped

/-- A mention on a later line leaves too few lines. -/
theorem NumberedReply.alone (reply : NumberedReply questions lines)
    (separate : lines.length ≤ (splitLines (stripMentions (numberedText lines))).length) :
    ∀ line ∈ lines.tail, line.mentions = [] := by
  intro line member
  by_contra mentioned
  have listed : line ∈ lines := List.mem_of_mem_tail member
  obtain ⟨digits, others, tokens⟩ := List.exists_cons_of_ne_nil mentioned
  have valid : MentionDigits digits := by
    apply reply.mentions line listed digits
    rw [tokens]
    exact List.mem_cons_self
  obtain ⟨first, rest, rfl⟩ := List.exists_cons_of_ne_nil (List.ne_nil_of_mem listed)
  obtain ⟨before, after, same⟩ := List.append_of_mem (show line ∈ rest from member)
  -- The text is cut at the end of the line before the mention.
  obtain ⟨tail, joined⟩ := joinLines_cons (after.map fun line => line.line.text)
  have cut : numberedText (first :: rest) = joinLines ((first :: before).map fun line =>
      line.line.text) ++
      '\n' :: joinLines ((line :: after).map fun line => line.line.text) := by
    unfold numberedText
    rw [same, ← List.cons_append, List.map_append]
    exact joinLines_append (List.cons_ne_nil _ _) (List.cons_ne_nil _ _)
  have starts : joinLines ((line :: after).map fun line => line.line.text) = mentionToken digits ++
      (others.flatMap mentionToken ++ line.line.content ++ tail) := by
    have text : line.line.text = (digits :: others).flatMap mentionToken ++ line.line.content := by
      rw [← tokens]
      rfl
    rw [List.map_cons, joined, text, List.flatMap_cons, List.append_assoc, List.append_assoc,
      List.append_assoc]
  have found : (mentionLength
      (joinLines ((line :: after).map fun line => line.line.text))).isSome := by
    rw [starts, mentionLength_token valid]
    rfl
  have fewer := @countP_stripMentions_lt (joinLines ((first :: before).map fun line =>
    line.line.text)) _ '\n' (by decide) found
  rw [← cut] at fewer
  have ends : (numberedText (first :: rest)).countP isLineBoundary + 1 =
      (first :: rest).length := by
    have unbroken : ∀ text ∈ (first :: rest).map fun line => line.line.text, Unbroken text := by
      intro text member
      obtain ⟨line, listed, rfl⟩ := List.mem_map.mp member
      exact reply.text_unbroken line listed
    have counted := countP_joinLines unbroken (List.cons_ne_nil _ _)
    rw [List.length_map] at counted
    exact counted
  have most := length_splitLines_le (stripMentions (numberedText (first :: rest)))
  omega

/-- When every line is read as an answer, Python reads every number. -/
theorem NumberedReply.numbers {questionIds : List String} {answers : List (String × String)}
    (reply : NumberedReply questions lines)
    (read : (splitLines (joinLines (lines.map fun line => line.line.content))).map
      (lineAnswer questionIds) = answers.map some) :
    ∀ line ∈ lines, IsNumber (positionKey line.position) := by
  have unbroken : ∀ text ∈ lines.map fun line => line.line.content, Unbroken text := by
    intro text member
    obtain ⟨line, listed, rfl⟩ := List.mem_map.mp member
    exact (reply.plain line listed).unbroken
  have nonempty : ∀ text ∈ lines.map fun line => line.line.content, text ≠ [] := by
    intro text member
    obtain ⟨line, _, rfl⟩ := List.mem_map.mp member
    exact line.line.content_ne_nil
  rw [splitLines_joinLines unbroken nonempty, List.map_map] at read
  intro line member
  have answered : lineAnswer questionIds line.line.content ∈ answers.map some := by
    rw [← read]
    exact List.mem_map.mpr ⟨line, member, rfl⟩
  obtain ⟨answer, _, found⟩ := List.mem_map.mp answered
  by_contra bad
  cases value : parseInt (positionKey line.position) with
  | ok value => exact bad (isNumber_of_parseInt value)
  | error error =>
      have raised : keyQuestion questionIds line.line.key = .error error := by
        have key : line.line.key = positionKey line.position := rfl
        unfold keyQuestion numberedQuestion
        rw [key, if_pos (isDigit_positionKey line.position), value]
        rfl
      unfold lineAnswer at found
      rw [(reply.plain line member).parts] at found
      dsimp only at found
      rw [raised] at found
      cases found

/-- A reply with a number on each line is read as the answers of the lines exactly when only the
first line has mentions, and `int` reads the numbers. -/
theorem numbered_reply_iff {questionIds : List String} (several : 2 ≤ questionIds.length)
    (distinct : questionIds.Nodup) (reply : NumberedReply questionIds.length lines) :
    (∃ parsed, parseAnswers (stripMentions (numberedText lines)) questionIds = .ok (some parsed) ∧
        parsed.Perm (lines.map (NumberedLine.entry questionIds))) ↔
      (∀ line ∈ lines.tail, line.mentions = []) ∧
        ∀ line ∈ lines, IsNumber (positionKey line.position) := by
  constructor
  · rintro ⟨parsed, read, same⟩
    have answered := parseAnswers_lines several read
    have lengths := congrArg List.length answered
    have entries := same.length_eq
    rw [List.length_map, List.length_map] at lengths
    rw [List.length_map] at entries
    have alone := reply.alone (by omega)
    rw [reply.stripped alone] at answered
    exact ⟨alone, reply.numbers answered⟩
  · rintro ⟨alone, numbers⟩
    have listed : ∀ line ∈ lines, questionIds[line.position]? =
        some (questionIds.getD line.position "") := by
      intro line member
      have within : line.position < questionIds.length :=
        List.mem_range.mp (reply.positions.mem_iff.mp (List.mem_map.mpr ⟨line, member, rfl⟩))
      rw [List.getD_eq_getElem?_getD, List.getElem?_eq_getElem within, Option.getD_some]
    have keyed : ∀ line ∈ lines, keyQuestion questionIds line.line.key =
        .ok (some (questionIds.getD line.position "")) :=
      fun line member => keyQuestion_positionKey (numbers line member) (listed line member)
    have ordered : (lines.map fun line => questionIds.getD line.position "").Perm questionIds := by
      have all : (List.range questionIds.length).map (fun position => questionIds.getD position
          "") =
          questionIds := by
        refine List.ext_getElem (by rw [List.length_map, List.length_range]) fun index _
          within => ?_
        rw [List.getElem_map, List.getElem_range, List.getD_eq_getElem?_getD,
          List.getElem?_eq_getElem within, Option.getD_some]
      have moved := reply.positions.map fun position => questionIds.getD position ""
      rw [all, List.map_map] at moved
      exact moved
    refine ⟨_, ?_, List.Perm.refl _⟩
    rw [reply.stripped alone]
    exact parseAnswers_contents several reply.plain keyed ordered distinct

def plainLine : NumberedLine := ⟨[], 0, ['a']⟩

/-- A line with a mention before its number. -/
def mentionedLine : NumberedLine := ⟨[['1']], 1, ['b']⟩

/-- The two lines make a numbered reply in either order. -/
theorem numberedReply_of_perm (same : lines.Perm [plainLine, mentionedLine]) :
    NumberedReply 2 lines := by
  have split : ∀ {line}, line ∈ lines → line = plainLine ∨ line = mentionedLine := by
    intro line member
    rcases List.mem_cons.mp (same.mem_iff.mp member) with first | later
    · exact .inl first
    · exact .inr (List.mem_singleton.mp later)
  have single : ∀ {char : Char}, char ≠ '@' → isSpaceChar char = false →
      MentionFree [' ', char] := by
    intro char other spaceless
    refine ⟨fun _ => mentionLength_of_head other, fun space => ?_, trivial⟩
    rw [spaceless] at space
    cases space
  constructor
  case positions => exact same.map NumberedLine.position
  case mentions =>
    intro line member digits listed
    rcases split member with rfl | rfl
    · cases listed
    · rw [List.mem_singleton.mp listed]
      refine ⟨List.cons_ne_nil _ _, fun char digit => ?_⟩
      rw [List.mem_singleton.mp digit]
      decide
  case answers =>
    intro line member
    rcases split member with rfl | rfl
    · exact plainText_singleton (by decide) (by decide)
    · exact plainText_singleton (by decide) (by decide)
  case mentionFree =>
    intro line member
    rcases split member with rfl | rfl
    · exact single (by decide) (by decide)
    · exact single (by decide) (by decide)

/-- A mention in front of the first number only is read back. -/
theorem first_mention_read :
    (∃ parsed, parseAnswers (stripMentions (numberedText [mentionedLine, plainLine])) ["q1", "q2"] =
        .ok (some parsed) ∧
        parsed.Perm ([mentionedLine, plainLine].map (NumberedLine.entry ["q1", "q2"]))) ↔
      (∀ line ∈ [mentionedLine, plainLine].tail, line.mentions = []) ∧
        ∀ line ∈ [mentionedLine, plainLine], IsNumber (positionKey line.position) :=
  numbered_reply_iff (by decide) (by decide) (numberedReply_of_perm (List.Perm.swap _ _ _))

/-- The mention joins its line to the one before, and the reply is refused. -/
theorem later_mention_refused :
    NumberedReply 2 [plainLine, mentionedLine] ∧
      numberedText [plainLine, mentionedLine] = "1: a\n@_user_1 2: b".toList ∧
      parseAnswers (stripMentions (numberedText [plainLine, mentionedLine])) ["q1", "q2"] =
        .ok none :=
  ⟨numberedReply_of_perm (List.Perm.refl _), by decide, by decide⟩

end Numbered

section Keyed

/-- An id that is a number of questions is the id of the question with that number. -/
def NamesItself (questionIds : List String) (questionId : String) : Prop :=
  isDigit questionId.toList → ∃ number, parseInt questionId.toList = .ok number ∧
    ∀ other, 1 ≤ number → questionIds[number - 1]? = some other → other = questionId

/-- A key that is a question's id is taken for that question exactly when the id names
itself. -/
theorem keyQuestion_id_iff {questionId : String} (listed : questionId ∈ questionIds) :
    keyQuestion questionIds questionId.toList = .ok (some questionId) ↔
      NamesItself questionIds questionId := by
  have own : String.ofList questionId.toList = questionId := String.ofList_toList
  unfold keyQuestion numberedQuestion NamesItself
  by_cases digits : isDigit questionId.toList
  · rw [if_pos digits]
    cases read : parseInt questionId.toList with
    | error error =>
        constructor
        · exact fun named => by cases named
        · intro names
          obtain ⟨_, absurd, _⟩ := names digits
          cases absurd
    | ok number =>
        change (Except.ok _ = _) ↔ _
        dsimp only
        rw [own, if_pos listed, Except.ok.injEq]
        by_cases positive : 1 ≤ number
        · rw [if_pos positive]
          cases found : questionIds[number - 1]? with
          | none =>
              refine iff_of_true rfl fun _ => ⟨number, rfl, fun other _ same => ?_⟩
              rw [found] at same
              cases same
          | some other =>
              dsimp only
              rw [Option.some.injEq]
              constructor
              · rintro rfl _
                refine ⟨number, rfl, fun another _ same => ?_⟩
                rw [found] at same
                exact (Option.some.inj same).symm
              · intro names
                obtain ⟨value, same, named⟩ := names digits
                cases same
                exact named other positive found
        · rw [if_neg positive]
          exact iff_of_true rfl fun _ => ⟨number, rfl, fun _ within => (positive within).elim⟩
  · rw [if_neg digits]
    change (Except.ok _ = _) ↔ _
    dsimp only
    rw [own, if_pos listed]
    exact iff_of_true rfl fun impossible => (digits impossible).elim

/-- A line that is read as an answer has a key that names the question. -/
theorem keyQuestion_of_lineAnswer {line key : List Char} {answer : String} {entry : String × String}
    (parts : lineParts line = some (key, answer))
    (found : lineAnswer questionIds line = some entry) :
    keyQuestion questionIds key = .ok (some entry.1) ∧ entry.2 = answer := by
  unfold lineAnswer at found
  rw [parts] at found
  dsimp only at found
  split at found
  next questionId named =>
    split at found
    next => cases found
    next =>
      cases found
      exact ⟨named, rfl⟩
  next => cases found

/-- A line with the id of a question and its answer. -/
def keyedLine (line : String × List Char) : ReplyLine := ⟨[], line.1.toList, line.2⟩

def keyedText (lines : List (String × List Char)) : List Char :=
  joinLines (lines.map fun line => (keyedLine line).content)

/-- Replies with an id on each line are read as the answers of those questions exactly when no id is
the number of another question. -/
theorem keyed_replies_iff (several : 2 ≤ questionIds.length) (distinct : questionIds.Nodup)
    (plain : ∀ id ∈ questionIds, PlainText id.toList ∧ ':' ∉ id.toList) :
    (∀ lines : List (String × List Char), (lines.map Prod.fst).Perm questionIds →
      (∀ line ∈ lines, PlainText line.2) →
        ∃ parsed, parseAnswers (keyedText lines) questionIds = .ok (some parsed) ∧
          parsed.Perm (lines.map fun line => (line.1, String.ofList line.2))) ↔
      ∀ id ∈ questionIds, NamesItself questionIds id := by
  have keyed : ∀ {lines : List (String × List Char)}, (lines.map Prod.fst).Perm questionIds →
      (∀ line ∈ lines, PlainText line.2) → ∀ line ∈ lines,
        line.1 ∈ questionIds ∧ (keyedLine line).Plain := by
    intro lines ordered answers line member
    have listed := ordered.mem_iff.mp (List.mem_map.mpr ⟨line, member, rfl⟩)
    exact ⟨listed, (plain line.1 listed).1, (plain line.1 listed).2, answers line member⟩
  constructor
  · intro every id listed
    let lines := questionIds.map fun other => (other, if other = id then ['b'] else ['a'])
    have letter : ∀ line ∈ lines, PlainText line.2 := by
      intro line member
      obtain ⟨other, _, rfl⟩ := List.mem_map.mp member
      dsimp only
      split
      · exact plainText_singleton (by decide) (by decide)
      · exact plainText_singleton (by decide) (by decide)
    have ordered : (lines.map Prod.fst).Perm questionIds := by
      rw [List.map_map]
      exact List.Perm.of_eq (List.map_id questionIds)
    obtain ⟨parsed, read, same⟩ := every lines ordered letter
    have marked : (id, ['b']) ∈ lines := List.mem_map.mpr ⟨id, listed, by rw [if_pos rfl]⟩
    have line := keyed ordered letter (id, ['b']) marked
    have answered := parseAnswers_lines several read
    rw [keyedText, splitLines_joinLines ?unbroken ?nonempty, List.map_map] at answered
    case unbroken =>
      intro text member
      obtain ⟨other, inside, rfl⟩ := List.mem_map.mp member
      exact (keyed ordered letter other inside).2.unbroken
    case nonempty =>
      intro text member
      obtain ⟨other, _, rfl⟩ := List.mem_map.mp member
      exact (keyedLine other).content_ne_nil
    have reads : lineAnswer questionIds (keyedLine (id, ['b'])).content ∈ parsed.map some := by
      rw [← answered]
      exact List.mem_map.mpr ⟨(id, ['b']), marked, rfl⟩
    obtain ⟨entry, inside, found⟩ := List.mem_map.mp reads
    obtain ⟨named, answer⟩ := keyQuestion_of_lineAnswer line.2.parts found.symm
    -- No other line has this answer.
    have own : entry.1 = id := by
      obtain ⟨other, among, rfl⟩ := List.mem_map.mp (same.mem_iff.mp inside)
      obtain ⟨question, _, rfl⟩ := List.mem_map.mp among
      by_contra different
      dsimp only at different answer
      rw [if_neg different] at answer
      have letters : String.ofList ['a'] = String.ofList ['b'] := answer
      exact absurd letters (by decide)
    rw [own] at named
    exact (keyQuestion_id_iff listed).mp named
  · intro names lines ordered answers
    have named : ∀ line ∈ lines, keyQuestion questionIds (keyedLine line).key =
        .ok (some line.1) := by
      intro line member
      have listed := (keyed ordered answers line member).1
      exact (keyQuestion_id_iff listed).mpr (names line.1 listed)
    exact ⟨_, parseAnswers_contents several
      (fun line member => (keyed ordered answers line member).2) named ordered distinct,
      List.Perm.refl _⟩

/-- The ids are digits, and each is the number of the other. -/
theorem exchanged_ids :
    parseAnswers (keyedText [("2", ['a']), ("1", ['b'])]) ["2", "1"] =
      .ok (some [("1", "a"), ("2", "b")]) := by
  decide

/-- Two ids of which each names itself are read back as keys. -/
theorem named_ids :
    (∀ lines : List (String × List Char), (lines.map Prod.fst).Perm ["q1", "2"] →
      (∀ line ∈ lines, PlainText line.2) →
        ∃ parsed, parseAnswers (keyedText lines) ["q1", "2"] = .ok (some parsed) ∧
          parsed.Perm (lines.map fun line => (line.1, String.ofList line.2))) ↔
      ∀ id ∈ ["q1", "2"], NamesItself ["q1", "2"] id := by
  have plain : ∀ {text : List Char}, text ≠ [] → strip text = text →
      text.all (fun char => isLineBoundary char == false) → PlainText text :=
    fun nonempty stripped inside =>
      ⟨nonempty, stripped, fun char member =>
        beq_iff_eq.mp (List.all_eq_true.mp inside char member)⟩
  apply keyed_replies_iff (by decide) (by decide)
  intro id member
  rcases List.mem_cons.mp member with rfl | later
  · exact ⟨plain (by decide) (by decide) (by decide), by decide⟩
  · rw [List.mem_singleton.mp later]
    exact ⟨plain (by decide) (by decide) (by decide), by decide⟩

end Keyed

end Replies

end LarkBot
