import Mathlib.Data.List.TakeDrop
import Mathlib.Data.List.TakeWhile
import LarkBot.Core.Redaction

/-! # What redaction changes

Redacting a text masks values: the rest of a word, up to white space, a comma or a
semicolon, is replaced by a piece of the marker (`LarkBot.Masked`). Masking what was masked
already is one masking, so a redacted text is its text with some values masked
(`LarkBot.redactText_masked`).
-/

namespace LarkBot

/-- The text does not continue a value. -/
def EndsValue (text : List Char) : Prop := ∀ char ∈ text.head?, isSecretChar char = false

section Matches

/-- The text starts with what is kept, a value, and what does not continue the value. -/
structure SecretMatch.At (found : SecretMatch) (text value rest : List Char) : Prop where
  text_eq : text = found.kept ++ (value ++ rest)
  length_eq : found.length = found.kept.length + value.length
  nonempty : value ≠ []
  secret : ∀ char ∈ value, isSecretChar char
  ends : EndsValue rest

/-- What is left after a match is what does not continue its value. -/
theorem SecretMatch.At.drop_tail {found : SecretMatch} {char : Char} {text value rest : List Char}
    (split : found.At (char :: text) value rest) : text.drop (found.length - 1) = rest := by
  have positive := List.length_pos_iff.mpr split.nonempty
  obtain ⟨shorter, length⟩ := Nat.exists_eq_add_one_of_ne_zero
    (show found.length ≠ 0 by rw [split.length_eq]; omega)
  have whole : (char :: text).drop found.length = rest := by
    rw [split.text_eq, split.length_eq, ← List.append_assoc, ← List.length_append,
      List.drop_left]
  rw [length, List.drop_succ_cons] at whole
  rwa [length, Nat.add_sub_cancel]

/-- A span is what is taken up to the first character outside of the class, and what is
left. -/
theorem spanClass_eq (member : Char → Bool) (text : List Char) :
    spanClass member text = (text.takeWhile member, text.dropWhile member) := by
  unfold spanClass
  exact List.span_eq_takeWhile_dropWhile member text

/-- A span and what is left of the text make up the text. -/
theorem spanClass_append {member : Char → Bool} {text start rest : List Char}
    (split : spanClass member text = (start, rest)) : text = start ++ rest := by
  rw [spanClass_eq] at split
  cases split
  exact List.takeWhile_append_dropWhile.symm

/-- What a word matches is the start of the text. -/
theorem matchWord_append {word text matched rest : List Char}
    (found : matchWord word text = some (matched, rest)) : text = matched ++ rest := by
  induction word generalizing text matched with
  | nil =>
      cases found
      rfl
  | cons letter word ih =>
      cases text with
      | nil => cases found
      | cons char text =>
          unfold matchWord at found
          split at found
          · obtain ⟨⟨tail, remaining⟩, inside, same⟩ := Option.map_eq_some_iff.mp found
            cases same
            rw [ih inside, List.cons_append]
          · cases found

/-- A value that is matched stands where the match says. -/
theorem matchValue_at {kept text : List Char} {found : SecretMatch}
    (matched : matchValue kept text = some found) :
    ∃ value rest, found.At (kept ++ text) value rest := by
  unfold matchValue at matched
  rw [spanClass_eq] at matched
  have ends : EndsValue (text.dropWhile isSecretChar) := by
    intro char head
    have stops := List.head?_dropWhile_not isSecretChar text
    rw [Option.mem_def.mp head] at stops
    exact stops
  split at matched
  next => cases matched
  next nonempty split =>
    obtain ⟨rfl, rfl⟩ := Prod.mk.inj split
    cases matched
    refine ⟨text.takeWhile isSecretChar, text.dropWhile isSecretChar, ?_, rfl, nonempty,
      fun char member => List.mem_takeWhile_imp member, ends⟩
    rw [List.takeWhile_append_dropWhile]

/-- A value that is matched after a key and a sign stands where the match says. -/
theorem matchSeparated_at {key text : List Char} {found : SecretMatch}
    (matched : matchSeparated key text = some found) :
    ∃ value rest, found.At (key ++ text) value rest := by
  unfold matchSeparated at matched
  rcases spaces : spanClass isSpaceChar text with ⟨before, afterSpaces⟩
  rw [spaces] at matched
  dsimp only at matched
  split at matched
  next sign tail =>
    split at matched
    next =>
      rcases more : spanClass isSpaceChar tail with ⟨after, rest⟩
      rw [more] at matched
      have same : key ++ text = (key ++ before ++ [sign] ++ after) ++ rest := by
        rw [spanClass_append spaces, spanClass_append more]
        simp only [List.append_assoc, List.cons_append, List.nil_append]
      rw [same]
      exact matchValue_at matched
    next => cases matched
  next => cases matched

/-- A key-value secret matches at the start of the text. -/
theorem matchKeyValueSecret_at {text : List Char} {found : SecretMatch}
    (matched : matchKeyValueSecret text = some found) : ∃ value rest, found.At text value rest := by
  obtain ⟨word, _, keyed⟩ := List.exists_of_findSome?_eq_some matched
  obtain ⟨⟨key, rest⟩, named, separated⟩ := Option.bind_eq_some_iff.mp keyed
  rw [matchWord_append named]
  exact matchSeparated_at separated

/-- A bearer token matches at the start of the text. -/
theorem matchBearerSecret_at {text : List Char} {found : SecretMatch}
    (matched : matchBearerSecret text = some found) : ∃ value rest, found.At text value rest := by
  obtain ⟨⟨key, afterKey⟩, named, bearer⟩ := Option.bind_eq_some_iff.mp matched
  rcases spaces : spanClass isSpaceChar afterKey with ⟨before, afterSpaces⟩
  dsimp only at bearer
  rw [spaces] at bearer
  dsimp only at bearer
  split at bearer
  next tail =>
    rcases more : spanClass isSpaceChar tail with ⟨after, rest⟩
    rw [more] at bearer
    dsimp only at bearer
    obtain ⟨⟨scheme, afterScheme⟩, schemed, valued⟩ := Option.bind_eq_some_iff.mp bearer
    dsimp only at valued
    split at valued
    next => cases valued
    next gap rest' nonempty split =>
      have same : text = (key ++ before ++ [':'] ++ after ++ scheme ++ gap) ++ rest' := by
        rw [matchWord_append named, spanClass_append spaces, spanClass_append more,
          matchWord_append schemed, spanClass_append split]
        simp only [List.append_assoc, List.cons_append, List.nil_append]
      rw [same]
      exact matchValue_at valued
  next => cases bearer

end Matches

/-- `after` is `before` with some values masked. -/
inductive Masked : List Char → List Char → Prop
  | nil : Masked [] []
  | keep {before after : List Char} (char : Char) :
      Masked before after → Masked (char :: before) (char :: after)
  | mask {before after value mark : List Char} : value ≠ [] →
      (∀ char ∈ value, isSecretChar char) → mark ≠ [] → (∀ char ∈ mark, char ∈ redactedMarker) →
      EndsValue before → Masked before after →
        Masked (value ++ before) (mark ++ after)

/-- A text that does not continue a value starts with no character of one. -/
theorem EndsValue.cons_of_secret {char : Char} {text : List Char} (ends : EndsValue (char :: text))
    (secret : isSecretChar char) : False := by
  have plain := ends char rfl
  rw [secret] at plain
  cases plain

/-- The marker is made of characters that a value may have. -/
theorem marker_secret {char : Char} (member : char ∈ redactedMarker) : isSecretChar char := by
  have every : ∀ char ∈ redactedMarker, isSecretChar char = true := List.all_eq_true.mp (by decide)
  exact every char member

/-- A value and what follows it are determined by the text. -/
theorem value_unique {value other rest tail : List Char}
    (secret : ∀ char ∈ value, isSecretChar char)
    (also : ∀ char ∈ other, isSecretChar char) (ends : EndsValue rest) (stops : EndsValue tail)
    (same : value ++ rest = other ++ tail) : value = other ∧ rest = tail := by
  induction value generalizing other with
  | nil =>
      cases other with
      | nil => exact ⟨rfl, same⟩
      | cons char other =>
          rw [List.nil_append] at same
          rw [same] at ends
          exact (ends.cons_of_secret (also char List.mem_cons_self)).elim
  | cons char value ih =>
      cases other with
      | nil =>
          rw [List.nil_append] at same
          rw [← same] at stops
          exact (stops.cons_of_secret (secret char List.mem_cons_self)).elim
      | cons letter other =>
          obtain ⟨rfl, following⟩ := List.cons.inj same
          obtain ⟨rfl, rfl⟩ := ih (fun char member => secret char (List.mem_cons_of_mem _ member))
            (fun char member => also char (List.mem_cons_of_mem _ member)) following
          exact ⟨rfl, rfl⟩

namespace Masked

variable {before after final value rest : List Char}

/-- What is kept in front of a masked text leaves it masked. -/
theorem keepAll (kept : List Char) (masked : Masked before after) :
    Masked (kept ++ before) (kept ++ after) := by
  induction kept with
  | nil => exact masked
  | cons char rest ih => exact .keep char ih

/-- Masking starts with what it keeps, or with a value. -/
theorem cases_cons {char : Char} (masked : Masked (char :: before) final) :
    (∃ after, final = char :: after ∧ Masked before after) ∨
      ∃ value rest mark after, char :: before = value ++ rest ∧ final = mark ++ after ∧
        value ≠ [] ∧ (∀ char ∈ value, isSecretChar char) ∧ mark ≠ [] ∧
        (∀ char ∈ mark, char ∈ redactedMarker) ∧ EndsValue rest ∧ Masked rest after := by
  generalize whole : char :: before = text at masked
  cases masked with
  | nil => cases whole
  | keep other masked =>
      cases whole
      exact .inl ⟨_, rfl, masked⟩
  | mask nonempty secret marked pieces ends masked =>
      exact .inr ⟨_, _, _, _, rfl, rfl, nonempty, secret, marked, pieces, ends, masked⟩

/-- Masking leaves something of every text. -/
theorem eq_nil (masked : Masked before []) : before = [] := by
  generalize whole : ([] : List Char) = text at masked
  cases masked with
  | nil => rfl
  | keep => cases whole
  | mask _ _ present => exact (present (List.append_eq_nil_iff.mp whole.symm).1).elim

/-- Masking does not continue a value that has ended. -/
theorem endsValue (masked : Masked before after) (ends : EndsValue before) : EndsValue after := by
  cases masked with
  | nil => exact ends
  | keep => exact ends
  | mask nonempty secret =>
      obtain ⟨char, value, rfl⟩ := List.exists_cons_of_ne_nil nonempty
      exact (ends.cons_of_secret (secret char List.mem_cons_self)).elim

/-- What was masked to a value and its end was a value and its end. -/
theorem split_right (masked : Masked before (value ++ rest))
    (secret : ∀ char ∈ value, isSecretChar char) (ends : EndsValue rest) :
    ∃ start tail, before = start ++ tail ∧ (∀ char ∈ start, isSecretChar char) ∧
      (value ≠ [] → start ≠ []) ∧ EndsValue tail ∧ Masked tail rest := by
  generalize whole : value ++ rest = text at masked
  induction masked generalizing value with
  | nil =>
      obtain ⟨rfl, rfl⟩ := List.append_eq_nil_iff.mp whole
      exact ⟨[], [], rfl, secret, id, ends, .nil⟩
  | @keep before after char masked ih =>
      cases value with
      | nil =>
          rw [List.nil_append] at whole
          subst whole
          exact ⟨[], char :: before, rfl, secret, id, ends, .keep char masked⟩
      | cons letter value =>
          obtain ⟨rfl, following⟩ := List.cons.inj whole
          obtain ⟨start, tail, rfl, hidden, _, stops, later⟩ :=
            ih (fun char member => secret char (List.mem_cons_of_mem _ member)) following
          refine ⟨letter :: start, tail, rfl, ?_, fun _ => List.cons_ne_nil _ _, stops,
            later⟩
          intro char member
          rcases List.mem_cons.mp member with rfl | member
          · exact secret char List.mem_cons_self
          · exact hidden char member
  | @mask before after masks mark nonempty hidden present pieces stops masked _ =>
      obtain ⟨rfl, rfl⟩ :=
        value_unique secret (fun char member => marker_secret (pieces char member))
        ends (masked.endsValue stops) whole
      exact ⟨masks, before, rfl, hidden, fun _ => nonempty, stops, masked⟩

/-- A value and its end are masked apart. -/
theorem split_left (masked : Masked (value ++ rest) after)
    (marked : ∀ char ∈ value, char ∈ redactedMarker)
    (ends : EndsValue rest) :
    ∃ start tail, after = start ++ tail ∧ (∀ char ∈ start, char ∈ redactedMarker) ∧
      (value ≠ [] → start ≠ []) ∧ Masked rest tail := by
  induction value generalizing after with
  | nil => exact ⟨[], after, rfl, fun _ absent => (List.not_mem_nil absent).elim, id, masked⟩
  | cons char value ih =>
      rcases masked.cases_cons with ⟨kept, rfl, later⟩ |
        ⟨masks, remaining, mark, kept, split, rfl, nonempty, secret, present, pieces, stops, later⟩
      · obtain ⟨start, tail, rfl, pieces, _, beyond⟩ :=
          ih later fun char member => marked char (List.mem_cons_of_mem _ member)
        refine ⟨char :: start, tail, rfl, ?_, fun _ => List.cons_ne_nil _ _, beyond⟩
        intro letter member
        rcases List.mem_cons.mp member with rfl | member
        · exact marked letter List.mem_cons_self
        · exact pieces letter member
      · obtain ⟨rfl, rfl⟩ := value_unique
          (fun char member => marker_secret (marked char member)) secret ends stops split
        exact ⟨mark, kept, rfl, pieces, fun _ => present, later⟩

/-- Masking what is masked is one masking. -/
theorem trans (first : Masked before after) (second : Masked after final) :
    Masked before final := by
  induction size : before.length using Nat.strongRecOn generalizing before after final with
  | _ size ih =>
      subst size
      cases first with
      | nil => exact second
      | keep char first =>
          rcases second.cases_cons with ⟨kept, rfl, later⟩ |
            ⟨masks, remaining, mark, kept, split, rfl, nonempty, secret, present, pieces, stops,
              later⟩
          · exact .keep char (ih _ (Nat.lt_succ_self _) first later rfl)
          · have whole := Masked.keep char first
            rw [split] at whole
            obtain ⟨start, tail, same, hidden, covers, ends, beyond⟩ :=
              whole.split_right secret stops
            rw [same]
            refine .mask (covers nonempty) hidden present pieces ends
              (ih tail.length ?_ beyond later rfl)
            rw [same, List.length_append]
            exact Nat.lt_add_of_pos_left (List.length_pos_iff.mpr (covers nonempty))
      | mask nonempty secret present pieces ends first =>
          obtain ⟨start, tail, rfl, marks, covers, later⟩ :=
            second.split_left pieces (first.endsValue ends)
          refine .mask nonempty secret (covers present) marks ends (ih _ ?_ first later rfl)
          rw [List.length_append]
          exact Nat.lt_add_of_pos_left (List.length_pos_iff.mpr nonempty)

end Masked

section Substitution

variable {pattern : List Char → Option SecretMatch}

/-- What a match has covered is skipped. -/
theorem substitute_covered (text : List Char) (previous : Option Char) (covered : Nat) :
    ∃ last, substitute pattern previous covered text =
      substitute pattern last 0 (text.drop covered) := by
  induction covered generalizing text previous with
  | zero => exact ⟨previous, rfl⟩
  | succ covered ih =>
      cases text with
      | nil => exact ⟨previous, rfl⟩
      | cons char rest => exact ih rest (some char)

/-- A character where nothing matches at a word boundary is kept. -/
theorem substitute_unmatched {previous : Option Char} {char : Char} {text : List Char}
    (unmatched : previous.any isWordChar = false → pattern (char :: text) = none) :
    substitute pattern previous 0 (char :: text) =
      char :: substitute pattern (some char) 0 text := by
  conv => lhs; unfold substitute
  split
  next found matched =>
    split at matched
    next => cases matched
    next boundary =>
      rw [unmatched (Bool.of_not_eq_true boundary)] at matched
      cases matched
  next => rfl

/-- A match keeps its head, writes the marker and goes on after the value. -/
theorem substitute_matched {previous : Option Char} {text value rest : List Char}
    {found : SecretMatch} (boundary : previous.any isWordChar = false)
    (matched : pattern text = some found) (split : found.At text value rest) :
    ∃ last, substitute pattern previous 0 text =
      found.kept ++ (redactedMarker ++ substitute pattern last 0 rest) := by
  cases text with
  | nil =>
      have valued := (List.append_eq_nil_iff.mp split.text_eq.symm).2
      exact (split.nonempty (List.append_eq_nil_iff.mp valued).1).elim
  | cons char text =>
      obtain ⟨last, covered⟩ := @substitute_covered pattern text (some char) (found.length - 1)
      refine ⟨last, ?_⟩
      conv => lhs; unfold substitute
      rw [boundary, if_neg Bool.false_ne_true, matched]
      dsimp only
      rw [covered, split.drop_tail, List.append_assoc]

/-- What is left after a match is shorter than the text. -/
theorem SecretMatch.At.shorter {found : SecretMatch} {text value rest : List Char}
    (split : found.At text value rest) : rest.length < text.length := by
  have positive := List.length_pos_iff.mpr split.nonempty
  have lengths := congrArg List.length split.text_eq
  rw [List.length_append, List.length_append] at lengths
  omega

/-- A text is read as the scan reads it: match by match, and one character at a time between them.
-/
theorem scan_induction
    (spec : ∀ text found, pattern text = some found → ∃ value rest, found.At text value rest)
    {motive : Option Char → List Char → Prop} (nil : ∀ previous, motive previous [])
    (matched : ∀ previous char text found value rest, previous.any isWordChar = false →
      pattern (char :: text) = some found → found.At (char :: text) value rest →
        (∀ last, motive last rest) → motive previous (char :: text))
    (plain : ∀ previous char text,
      (previous.any isWordChar = false → pattern (char :: text) = none) →
        motive (some char) text → motive previous (char :: text))
    (previous : Option Char) (text : List Char) : motive previous text := by
  induction size : text.length using Nat.strongRecOn generalizing previous text with
  | _ size ih =>
      subst size
      cases text with
      | nil => exact nil previous
      | cons char text =>
          have later : motive (some char) text := ih text.length (Nat.lt_succ_self _) _ text rfl
          by_cases boundary : previous.any isWordChar = false
          · cases here : pattern (char :: text) with
            | none => exact plain previous char text (fun _ => here) later
            | some found =>
                obtain ⟨value, rest, split⟩ := spec _ _ here
                exact matched previous char text found value rest boundary here split fun last =>
                  ih rest.length split.shorter last rest rfl
          · exact plain previous char text (fun inside => (boundary inside).elim) later

/-- Substituting the marker for matched values masks them. -/
theorem substitute_masked
    (spec : ∀ text found, pattern text = some found → ∃ value rest, found.At text value rest)
    (text : List Char) (previous : Option Char) :
    Masked text (substitute pattern previous 0 text) := by
  induction previous, text using scan_induction spec with
  | nil => exact .nil
  | matched previous char text found value rest boundary here split ih =>
      obtain ⟨last, result⟩ := substitute_matched boundary here split
      rw [result, split.text_eq]
      exact .keepAll found.kept (.mask split.nonempty split.secret
        (fun impossible => by cases impossible) (fun _ member => member) split.ends (ih last))
  | plain previous char text unmatched ih =>
      rw [substitute_unmatched unmatched]
      exact .keep char ih

end Substitution

/-- A redacted text is the text with some values masked. -/
theorem redactText_masked (text : String) : Masked text.toList (redactText text).toList := by
  unfold redactText
  rw [String.toList_ofList]
  have keyed := substitute_masked (fun _ _ => matchKeyValueSecret_at) text.toList none
  exact keyed.trans (substitute_masked (fun _ _ => matchBearerSecret_at) _ none)

/-- Redaction empties no text. -/
theorem redactText_ne_empty {text : String} (nonempty : text ≠ "") : redactText text ≠ "" := by
  intro empty
  have masked := redactText_masked text
  rw [empty] at masked
  exact nonempty (String.toList_eq_nil_iff.mp masked.eq_nil)

end LarkBot
