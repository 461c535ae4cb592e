import LarkBot.Core.Secrets

/-! # Redacting what was redacted

A text is clean for a pattern when every value that the pattern could match is the marker
(`LarkBot.Clean`). Substituting leaves a clean text (`LarkBot.clean_substitute`), substituting for
another pattern keeps it clean (`LarkBot.clean_of_replaced`), and a beginning of a clean text is
continued to a longer one at most, where it cuts a marker (`LarkBot.substitute_take_of_clean`). So
a redacted text is redacted, and so is a summary, wherever its text was cut.
-/

namespace LarkBot

open Foundation

section Replacing

/-- The text after it has the marker for some of the values before it. Where `allowed` says so of
the character before, a value may be replaced. -/
inductive Replaced (allowed : Option Char → Prop) : Option Char → List Char → List Char → Prop
  | nil (previous : Option Char) : Replaced allowed previous [] []
  | keep {previous : Option Char} {before after : List Char} (char : Char) :
      Replaced allowed (some char) before after →
        Replaced allowed previous (char :: before) (char :: after)
  | mark {previous last : Option Char} {value before after : List Char} : allowed previous →
      value ≠ [] → (∀ char ∈ value, isSecretChar char) → EndsValue before →
        Replaced allowed last before after →
          Replaced allowed previous (value ++ before) (redactedMarker ++ after)

namespace Replaced

variable {allowed : Option Char → Prop} {previous : Option Char} {before after : List Char}

/-- What stands in front of a text is kept when its values are replaced. -/
theorem keepAll {head : List Char} (nonempty : head ≠ [])
    (replaced : Replaced allowed head.getLast? before after) :
    Replaced allowed previous (head ++ before) (head ++ after) := by
  induction head generalizing previous with
  | nil => exact (nonempty rfl).elim
  | cons char rest ih =>
      cases rest with
      | nil => exact .keep char replaced
      | cons next rest =>
          rw [List.getLast?_cons_cons] at replaced
          exact .keep char (ih (List.cons_ne_nil _ _) replaced)

/-- A text that does not continue a value does not when its values are replaced. -/
theorem endsValue (replaced : Replaced allowed previous before after) (ends : EndsValue before) :
    EndsValue after := by
  cases replaced with
  | nil => exact ends
  | keep => exact ends
  | mark _ nonempty secret =>
      obtain ⟨char, value, rfl⟩ := List.exists_cons_of_ne_nil nonempty
      exact (ends.cons_of_secret (secret char List.mem_cons_self)).elim

/-- A value that starts after the replacement started before it. -/
theorem startsValue (replaced : Replaced allowed previous before after)
    (starts : StartsValue after) :
    StartsValue before := by
  cases replaced with
  | nil => exact starts
  | keep =>
      obtain ⟨_, _, same, secret⟩ := starts
      obtain ⟨rfl, rfl⟩ := List.cons.inj same
      exact ⟨_, _, rfl, secret⟩
  | mark _ nonempty secret =>
      obtain ⟨char, value, rfl⟩ := List.exists_cons_of_ne_nil nonempty
      exact ⟨char, _, rfl, secret char List.mem_cons_self⟩

/-- What has no bracket of the marker in it was there before. -/
theorem split_head {head : List Char} (replaced : Replaced allowed previous before (head ++ after))
    (unmarked : ∀ char ∈ head, char ≠ '[' ∧ char ≠ ']') :
    ∃ rest last, before = head ++ rest ∧ Replaced allowed last rest after := by
  induction head generalizing previous before with
  | nil => exact ⟨before, previous, rfl, replaced⟩
  | cons char head ih =>
      rw [List.cons_append] at replaced
      generalize whole : char :: (head ++ after) = text at replaced
      cases replaced with
      | nil => cases whole
      | keep _ replaced =>
          cases whole
          obtain ⟨rest, last, rfl, later⟩ :=
            ih replaced fun char member => unmarked char (List.mem_cons_of_mem _ member)
          exact ⟨rest, last, rfl, later⟩
      | mark =>
          have first : char = '[' := (List.cons.inj whole).1
          exact ((unmarked char List.mem_cons_self).1 first).elim

/-- Where only whole values are replaced, a value whose first character is kept is kept. -/
theorem keeps_value {char : Char} {value rest : List Char}
    (whole : ∀ char, isSecretChar char → ¬ allowed (some char))
    (replaced : Replaced allowed (some char) (value ++ rest) after) (first : isSecretChar char)
    (secret : ∀ char ∈ value, isSecretChar char) :
    ∃ last later, after = value ++ later ∧ Replaced allowed last rest later := by
  induction value generalizing char after with
  | nil => exact ⟨some char, after, rfl, replaced⟩
  | cons next value ih =>
      rw [List.cons_append] at replaced
      generalize same : next :: (value ++ rest) = text at replaced
      cases replaced with
      | nil => cases same
      | keep _ replaced =>
          cases same
          obtain ⟨last, later, rfl, remaining⟩ := ih replaced (secret next List.mem_cons_self)
            fun char member => secret char (List.mem_cons_of_mem _ member)
          exact ⟨last, later, rfl, remaining⟩
      | mark here => exact (whole char first here).elim

end Replaced

variable {pattern : List Char → Option SecretMatch} {IsHead : List Char → Prop}

/-- A match is a head, a value, and what does not continue the value. -/
theorem ValuePattern.spec (values : ValuePattern pattern IsHead) (text : List Char)
    (found : SecretMatch) (matched : pattern text = some found) :
    ∃ value rest, found.At text value rest :=
  (values.sound text found matched).2

/-- The head of a match is not empty. -/
theorem ValuePattern.head_ne_nil (values : ValuePattern pattern IsHead) {head : List Char}
    (isHead : IsHead head) : head ≠ [] := by
  obtain ⟨char, rest, rfl, _⟩ := values.starts head isHead
  exact List.cons_ne_nil _ _

/-- Substituting replaces values after heads. -/
theorem substitute_replaced (values : ValuePattern pattern IsHead) {allowed : Option Char → Prop}
    (heads : ∀ head, IsHead head → allowed head.getLast?) (previous : Option Char)
    (text : List Char) :
    Replaced allowed previous text (substitute pattern previous 0 text) := by
  induction previous, text using scan_induction values.spec with
  | nil previous => exact .nil previous
  | matched previous char text found value rest boundary here split ih =>
      obtain ⟨last, result⟩ := substitute_matched boundary here split
      have isHead := (values.sound _ _ here).1
      rw [result, split.text_eq]
      exact .keepAll (values.head_ne_nil isHead)
        (.mark (heads _ isHead) split.nonempty split.secret split.ends (ih last))
  | plain previous char text unmatched ih =>
      rw [substitute_unmatched unmatched]
      exact .keep char ih

/-- A match after a replacement was one before it. -/
theorem isSome_of_replaced (values : ValuePattern pattern IsHead) {allowed : Option Char → Prop}
    {previous : Option Char} {before after : List Char} {found : SecretMatch}
    (replaced : Replaced allowed previous before after) (matched : pattern after = some found) :
    (pattern before).isSome := by
  obtain ⟨isHead, value, rest, split⟩ := values.sound _ _ matched
  rw [split.text_eq] at replaced
  obtain ⟨remaining, last, rfl, later⟩ := replaced.split_head (values.unmarked _ isHead)
  refine values.finds _ _ isHead (later.startsValue ?_)
  obtain ⟨char, value, same⟩ := List.exists_cons_of_ne_nil split.nonempty
  rw [same]
  exact ⟨char, _, rfl, split.secret char (by rw [same]; exact List.mem_cons_self)⟩

end Replacing

section Cleanness

/-- Every value that the pattern matches at a word boundary is the marker. -/
def Clean (pattern : List Char → Option SecretMatch) : Option Char → List Char → Prop
  | _, [] => True
  | previous, char :: text =>
      (previous.any isWordChar = false → ∀ found, pattern (char :: text) = some found →
        ∃ rest, found.At (char :: text) redactedMarker rest) ∧ Clean pattern (some char) text

variable {pattern : List Char → Option SecretMatch} {IsHead : List Char → Prop}

/-- The end of a clean text is clean. -/
theorem Clean.later {previous : Option Char} {before after : List Char}
    (clean : Clean pattern previous (before ++ after)) : ∃ last, Clean pattern last after := by
  induction before generalizing previous with
  | nil => exact ⟨previous, clean⟩
  | cons char before ih => exact ih clean.2

/-- No head starts where no value goes on. -/
theorem ValuePattern.none_of_endsValue (values : ValuePattern pattern IsHead) {char : Char}
    {text : List Char} (ends : EndsValue (char :: text)) : pattern (char :: text) = none := by
  cases matched : pattern (char :: text) with
  | none => rfl
  | some found =>
      obtain ⟨isHead, value, rest, split⟩ := values.sound _ _ matched
      obtain ⟨first, head, kept, key⟩ := values.starts _ isHead
      have whole := split.text_eq
      rw [kept, List.cons_append] at whole
      rw [(List.cons.inj whole).1] at ends
      exact (ends.cons_of_secret (isKeyChar_secret key)).elim

/-- After a value it does not matter what the value was. -/
theorem Clean.of_endsValue (values : ValuePattern pattern IsHead) {previous other : Option Char}
    {text : List Char} (clean : Clean pattern previous text) (ends : EndsValue text) :
    Clean pattern other text := by
  cases text with
  | nil => exact trivial
  | cons char text =>
      refine ⟨fun _ found matched => ?_, clean.2⟩
      rw [values.none_of_endsValue ends] at matched
      cases matched

/-- A marker is clean before a clean text. -/
theorem Clean.marker (values : ValuePattern pattern IsHead) {piece rest : List Char}
    (suffix : piece <:+ redactedMarker) (ends : EndsValue rest) {last : Option Char}
    (clean : Clean pattern last rest) (previous : Option Char) :
    Clean pattern previous (piece ++ rest) := by
  induction piece generalizing previous with
  | nil => exact clean.of_endsValue values ends
  | cons char piece ih =>
      rw [List.cons_append]
      refine ⟨fun _ found matched => ?_, ih ((List.suffix_cons char piece).trans suffix) _⟩
      have none := values.apart _ suffix (List.cons_ne_nil _ _) rest
      rw [List.cons_append] at none
      rw [none] at matched
      cases matched

/-- The marker starts a value. -/
theorem startsValue_marker (rest : List Char) : StartsValue (redactedMarker ++ rest) :=
  ⟨'[', "REDACTED]".toList ++ rest, rfl, by decide⟩

/-- A value starts behind the head of a match. -/
theorem SecretMatch.At.startsValue {found : SecretMatch} {text value rest : List Char}
    (split : found.At text value rest) : StartsValue (value ++ rest) := by
  obtain ⟨char, tail, rfl⟩ := List.exists_cons_of_ne_nil split.nonempty
  exact ⟨char, _, rfl, split.secret char List.mem_cons_self⟩

/-- A head before a marker is clean: what matches inside of it has that marker for its value. -/
theorem Clean.head (values : ValuePattern pattern IsHead) {start later rest : List Char}
    (isHead : IsHead (start ++ later)) (ends : EndsValue rest) {last : Option Char}
    (clean : Clean pattern last rest) (previous : Option Char) :
    Clean pattern previous (later ++ (redactedMarker ++ rest)) := by
  induction later generalizing start previous with
  | nil => exact .marker values (List.suffix_refl _) ends clean previous
  | cons char later ih =>
      have shifted : IsHead ((start ++ [char]) ++ later) := by
        rwa [List.append_assoc, List.singleton_append]
      refine ⟨fun _ found matched => ?_, ih shifted _⟩
      obtain ⟨also, value, tail, split⟩ := values.sound _ _ matched
      have whole := split.text_eq
      have same := values.nested start (char :: later) found.kept _ _ isHead also
        (List.cons_ne_nil _ _) (startsValue_marker rest) split.startsValue whole
      have values := whole
      rw [← same, List.cons_append] at values
      have remaining := List.append_cancel_left (List.cons.inj values).2
      obtain ⟨rfl, rfl⟩ := value_unique (fun _ => marker_secret) split.secret ends split.ends
        remaining
      exact ⟨rest, split⟩

/-- Substituting leaves a clean text. -/
theorem clean_substitute (values : ValuePattern pattern IsHead) (previous : Option Char)
    (text : List Char) : Clean pattern previous (substitute pattern previous 0 text) := by
  have replaces := @substitute_replaced pattern IsHead values (fun _ => True) fun _ _ => trivial
  induction previous, text using scan_induction values.spec with
  | nil => exact trivial
  | matched previous char text found value rest boundary here split ih =>
      obtain ⟨last, result⟩ := substitute_matched boundary here split
      have isHead : IsHead ([] ++ found.kept) := (values.sound _ _ here).1
      rw [result]
      exact .head values isHead ((replaces last rest).endsValue split.ends) (ih last) previous
  | plain previous char text unmatched ih =>
      have replaced := replaces previous (char :: text)
      rw [substitute_unmatched unmatched] at replaced ⊢
      refine ⟨fun boundary found matched => ?_, ih⟩
      have before := isSome_of_replaced values replaced matched
      rw [unmatched boundary] at before
      cases before

/-- Replacing whole values by the marker keeps a text clean. -/
theorem clean_of_replaced (values : ValuePattern pattern IsHead) {allowed : Option Char → Prop}
    (whole : ∀ char, isSecretChar char → ¬ allowed (some char)) {previous : Option Char}
    {before after : List Char} (replaced : Replaced allowed previous before after)
    (clean : Clean pattern previous before) : Clean pattern previous after := by
  induction replaced with
  | nil => exact trivial
  | @keep previous before after char replaced ih =>
      refine ⟨fun boundary found matched => ?_, ih clean.2⟩
      obtain ⟨isHead, value, rest, split⟩ := values.sound _ _ matched
      have reads : Replaced allowed previous (char :: before) (found.kept ++ (value ++ rest)) := by
        rw [← split.text_eq]
        exact .keep char replaced
      obtain ⟨tail, last, same, later⟩ := reads.split_head (values.unmarked _ isHead)
      have found_before := values.finds _ tail isHead (later.startsValue split.startsValue)
      rw [← same] at found_before
      obtain ⟨earlier, here⟩ := Option.isSome_iff_exists.mp found_before
      obtain ⟨remaining, marked⟩ := clean.1 boundary earlier here
      have sameHead := values.nested [] found.kept earlier.kept tail (redactedMarker ++ remaining)
        isHead (values.sound _ _ here).1 (values.head_ne_nil isHead)
        (later.startsValue split.startsValue) (startsValue_marker remaining)
        (by rw [← same, marked.text_eq])
      have tails : tail = redactedMarker ++ remaining := by
        have both := same.symm.trans marked.text_eq
        rw [sameHead] at both
        exact List.append_cancel_left both
      -- The marker before is the marker after: replaced as a whole, or kept.
      suffices valued : ∃ after, value ++ rest = redactedMarker ++ after ∧ EndsValue after by
        obtain ⟨after, both, ends⟩ := valued
        obtain ⟨rfl, rfl⟩ := value_unique split.secret (fun _ => marker_secret) split.ends ends both
        exact ⟨rest, split⟩
      rw [tails] at later
      generalize marker : redactedMarker ++ remaining = text at later
      generalize result : value ++ rest = final at later
      cases later with
      | nil => exact (List.cons_ne_nil _ _ (List.append_eq_nil_iff.mp marker).1).elim
      | keep char kept =>
          obtain ⟨rfl, rfl⟩ := List.cons.inj marker
          obtain ⟨_, final, rfl, beyond⟩ := kept.keeps_value whole (by decide)
            (fun char member => marker_secret (List.mem_cons_of_mem _ member))
          exact ⟨final, rfl, beyond.endsValue marked.ends⟩
      | mark _ nonempty secret ends beyond => exact ⟨_, rfl, beyond.endsValue ends⟩
  | mark _ _ _ ends replaced ih =>
      obtain ⟨last, later⟩ := clean.later
      exact .marker values (List.suffix_refl _) (replaced.endsValue ends)
        (ih (later.of_endsValue values ends)) _

/-- A value that a marker goes on from is a beginning of it. -/
theorem prefix_marker {value more rest : List Char} (secret : ∀ char ∈ value, isSecretChar char)
    (ends : EndsValue rest) (same : value ++ more = redactedMarker ++ rest) :
    value <+: redactedMarker := by
  rcases List.append_eq_append_iff.mp same with ⟨tail, marker, _⟩ | ⟨tail, rfl, rfl⟩
  · exact ⟨tail, marker.symm⟩
  · cases tail with
    | nil => rw [List.append_nil]
    | cons char tail =>
        exact (ends.cons_of_secret (secret char (List.mem_append_right _ List.mem_cons_self))).elim

/-- A beginning of a clean text stays as it is, except that a marker it cuts is completed. -/
theorem substitute_prefix_of_clean (values : ValuePattern pattern IsHead) (previous : Option Char)
    (start : List Char) : ∀ text, start <+: text → Clean pattern previous text →
      start <+: substitute pattern previous 0 start ∧ substitute pattern previous 0 start <+:
        text := by
  induction previous, start using scan_induction values.spec with
  | nil => exact fun text _ _ => ⟨List.prefix_refl _, List.nil_prefix⟩
  | plain previous char start unmatched ih =>
      rintro text ⟨more, rfl⟩ clean
      obtain ⟨longer, within⟩ := ih (start ++ more) (List.prefix_append _ _) clean.2
      rw [substitute_unmatched unmatched]
      exact ⟨List.cons_prefix_cons.mpr ⟨rfl, longer⟩, List.cons_prefix_cons.mpr ⟨rfl, within⟩⟩
  | matched previous char start found value rest boundary here split ih =>
      rintro text ⟨more, rfl⟩ clean
      obtain ⟨last, result⟩ := substitute_matched boundary here split
      have isHead := (values.sound _ _ here).1
      have starts : StartsValue (value ++ (rest ++ more)) := by
        obtain ⟨first, tail, whole, secret⟩ := split.startsValue
        exact ⟨first, tail ++ more, by rw [← List.append_assoc, whole, List.cons_append], secret⟩
      have whole : (char :: start) ++ more = found.kept ++ (value ++ (rest ++ more)) := by
        rw [split.text_eq]
        simp only [List.append_assoc]
      have longerFound := values.finds _ _ isHead starts
      rw [← whole] at longerFound
      obtain ⟨also, matched⟩ := Option.isSome_iff_exists.mp longerFound
      obtain ⟨remaining, marked⟩ := clean.1 boundary also matched
      have heads := values.nested [] found.kept also.kept _ _ isHead (values.sound _ _ matched).1
        (values.head_ne_nil isHead) starts (startsValue_marker remaining)
        (whole.symm.trans marked.text_eq)
      have read : (char :: start) ++ more = found.kept ++ (redactedMarker ++ remaining) := by
        rw [heads]
        exact marked.text_eq
      have tails := List.append_cancel_left (whole.symm.trans read)
      rw [result, read, split.text_eq]
      by_cases cut : rest = []
      · subst cut
        obtain ⟨tail, same⟩ := prefix_marker split.secret marked.ends tails
        rw [← same]
        refine ⟨?_, ?_⟩
        · exact ⟨tail, by simp only [List.append_assoc, List.append_nil, substitute]⟩
        · exact ⟨remaining, by simp only [List.append_assoc, List.append_nil, substitute]⟩
      · obtain ⟨next, tail, rfl⟩ := List.exists_cons_of_ne_nil cut
        have ends : EndsValue (next :: tail ++ more) := split.ends
        obtain ⟨rfl, rfl⟩ := value_unique split.secret (fun _ => marker_secret) ends marked.ends
          tails
        rw [read, ← List.append_assoc] at clean
        obtain ⟨_, later⟩ := clean.later
        obtain ⟨longer, within⟩ := ih last _ (List.prefix_append _ _)
          (later.of_endsValue values marked.ends)
        exact ⟨List.prefix_append_right_inj _ |>.mpr (List.prefix_append_right_inj _ |>.mpr longer),
          List.prefix_append_right_inj _ |>.mpr (List.prefix_append_right_inj _ |>.mpr within)⟩

/-- A clean text stays as it is. -/
theorem substitute_of_clean (values : ValuePattern pattern IsHead) {previous : Option Char}
    {text : List Char} (clean : Clean pattern previous text) :
    substitute pattern previous 0 text = text := by
  obtain ⟨longer, within⟩ :=
    substitute_prefix_of_clean values previous text text (List.prefix_refl _) clean
  exact (longer.eq_of_length_le within.length_le).symm

end Cleanness

section Redaction

/-- White space comes before. -/
def AfterSpace (previous : Option Char) : Prop := ∃ space, isSpaceChar space ∧ previous = some space

/-- A bearer token starts after white space. -/
theorem IsBearerHead.afterSpace {head : List Char} (isHead : IsBearerHead head) :
    AfterSpace head.getLast? := by
  obtain ⟨key, before, after, scheme, gap, _, _, _, _, gapped, wide, rfl⟩ := isHead
  refine ⟨gap.getLast wide, gapped _ (List.getLast_mem wide), ?_⟩
  have whole : key ++ (before ++ ':' :: (after ++ (scheme ++ gap))) =
      (key ++ (before ++ ':' :: (after ++ scheme))) ++ gap := by
    simp only [List.append_assoc, List.cons_append]
  rw [whole, List.getLast?_append_of_ne_nil _ wide, List.getLast?_eq_some_getLast wide]

/-- No white space comes before a character that a value may have. -/
theorem not_afterSpace {char : Char} (secret : isSecretChar char) : ¬ AfterSpace (some char) := by
  rintro ⟨space, spaced, same⟩
  cases same
  rw [isSpaceChar_of_secret secret] at spaced
  cases spaced

/-- `redact_text`, on characters. -/
def redacted (text : List Char) : List Char :=
  substitute matchBearerSecret none 0 (substitute matchKeyValueSecret none 0 text)

/-- `redact_text` is the substitution of both patterns, on characters. -/
theorem toList_redactText (text : String) : (redactText text).toList = redacted text.toList := by
  unfold redactText
  rw [String.toList_ofList]
  rfl

/-- After both passes neither pattern finds a value that is not the marker: the second pass replaces
a token as a whole, since white space comes before it. -/
theorem clean_redacted (text : List Char) :
    Clean matchKeyValueSecret none (redacted text) ∧ Clean matchBearerSecret none (redacted text) :=
  ⟨clean_of_replaced keyValuePattern (fun _ => not_afterSpace)
      (substitute_replaced bearerPattern (fun _ isHead => isHead.afterSpace) none _)
      (clean_substitute keyValuePattern none text),
    clean_substitute bearerPattern none _⟩

/-- A beginning of a redacted text stays as it is, but for a marker at its end. -/
theorem redacted_prefix {start text : List Char} (begins : start <+: redacted text) :
    start <+: redacted start ∧ redacted start <+: redacted text := by
  obtain ⟨keyClean, bearerClean⟩ := clean_redacted text
  obtain ⟨longer, within⟩ := substitute_prefix_of_clean keyValuePattern none start _ begins keyClean
  obtain ⟨beyond, inside⟩ := substitute_prefix_of_clean bearerPattern none _ _ within bearerClean
  exact ⟨longer.trans beyond, inside⟩

/-- A summary is the redacted text, cut to the limit. -/
theorem toList_safeSummary (value : String) :
    (safeSummary value).toList = (redacted value.toList).take summaryLimit := by
  unfold safeSummary
  rw [String.toList_ofList, toList_redactText]

/-- The marker that a summary cuts is completed, and cut again. -/
theorem safeSummary_safeSummary (value : String) : safeSummary
    (safeSummary value) = safeSummary value := by
  apply String.toList_inj.mp
  rw [toList_safeSummary, toList_safeSummary]
  obtain ⟨longer, within⟩ :=
    redacted_prefix (List.take_prefix summaryLimit (redacted value.toList))
  have atLeast := longer.length_le
  have atMost := within.length_le
  rw [List.length_take] at atLeast
  rw [List.prefix_iff_eq_take.mp within, List.take_take]
  by_cases enough : summaryLimit ≤ (redacted ((redacted value.toList).take summaryLimit)).length
  · rw [Nat.min_eq_left enough]
  · rw [List.take_of_length_le (by omega), List.take_of_length_le (by omega)]

end Redaction

end LarkBot
