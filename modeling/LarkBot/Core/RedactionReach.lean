import LarkBot.Core.RepeatedRedaction

/-! # What redaction reaches

A secret is missed where the scan is inside an earlier value when the key of the secret comes
(`LarkBot.LeavesOpen`): the key is taken for the end of that value, and white space after it keeps
the secret out. This is the only way to miss one (`LarkBot.redacts_secret_iff`). The lemma behind
it says how a text goes on that is substituted from the start (`LarkBot.substitute_append`).
-/

namespace LarkBot

open Foundation

section Continuing

/-- The scan of a text ends inside a value, or right before one. -/
inductive LeavesOpen (pattern : List Char → Option SecretMatch) (IsHead : List Char → Prop) :
    Option Char → List Char → Prop
  | here {previous : Option Char} {head value : List Char} : previous.any isWordChar = false →
      IsHead head → (∀ char ∈ value, isSecretChar char) →
        LeavesOpen pattern IsHead previous (head ++ value)
  | matched {previous last : Option Char} {text value rest : List Char} {found : SecretMatch} :
      previous.any isWordChar = false → pattern text = some found → found.At text value rest →
        LeavesOpen pattern IsHead last rest → LeavesOpen pattern IsHead previous text
  | plain {previous : Option Char} {char : Char} {text : List Char} :
      (previous.any isWordChar = false → pattern (char :: text) = none) →
        LeavesOpen pattern IsHead (some char) text → LeavesOpen pattern IsHead previous
          (char :: text)

variable {pattern : List Char → Option SecretMatch} {IsHead : List Char → Prop}

/-- A text that leaves a value open ends in a head and a beginning of the value. -/
theorem LeavesOpen.ending {previous : Option Char} {text : List Char}
    (leaves : LeavesOpen pattern IsHead previous text) :
    ∃ start head value, text = start ++ (head ++ value) ∧ IsHead head ∧
      ∀ char ∈ value, isSecretChar char := by
  induction leaves with
  | here _ isHead secret => exact ⟨[], _, _, rfl, isHead, secret⟩
  | @matched _ _ text value rest found _ _ split _ ih =>
      obtain ⟨start, head, open_, same, isHead, secret⟩ := ih
      refine ⟨found.kept ++ (value ++ start), head, open_, ?_, isHead, secret⟩
      rw [split.text_eq, same]
      simp only [List.append_assoc]
  | @plain _ char text _ _ ih =>
      obtain ⟨start, head, value, rfl, isHead, secret⟩ := ih
      exact ⟨char :: start, head, value, rfl, isHead, secret⟩

/-- A text that cannot go on with a head is substituted alike after every character. -/
theorem substitute_of_endsValue (values : ValuePattern pattern IsHead) {text : List Char}
    (ends : EndsValue text) (previous other : Option Char) :
    substitute pattern previous 0 text = substitute pattern other 0 text := by
  cases text with
  | nil => rfl
  | cons char text =>
      rw [substitute_unmatched fun _ => values.none_of_endsValue ends,
        substitute_unmatched fun _ => values.none_of_endsValue ends]

/-- Characters of a value start one, whatever comes after them. -/
theorem startsValue_of_secret {value : List Char} (nonempty : value ≠ [])
    (secret : ∀ char ∈ value, isSecretChar char) (rest : List Char) : StartsValue
    (value ++ rest) := by
  obtain ⟨char, value, rfl⟩ := List.exists_cons_of_ne_nil nonempty
  exact ⟨char, value ++ rest, rfl, secret char List.mem_cons_self⟩

/-- Characters of a value start one. -/
theorem startsValue_of_value {value : List Char} (nonempty : value ≠ [])
    (secret : ∀ char ∈ value, isSecretChar char) : StartsValue value := by
  have starts := startsValue_of_secret nonempty secret []
  rwa [List.append_nil] at starts

/-- What a match at the start of a text is, is told by its head. -/
theorem ValuePattern.matches (values : ValuePattern pattern IsHead) {head value rest : List Char}
    (isHead : IsHead head) (nonempty : value ≠ []) (secret : ∀ char ∈ value, isSecretChar char)
    (ends : EndsValue rest) :
    ∃ found, pattern (head ++ (value ++ rest)) = some found ∧ found.kept = head ∧
      found.At (head ++ (value ++ rest)) value rest := by
  have starts := startsValue_of_secret nonempty secret rest
  obtain ⟨found, matched⟩ := Option.isSome_iff_exists.mp (values.finds head _ isHead starts)
  obtain ⟨also, other, tail, split⟩ := values.sound _ _ matched
  have same := values.nested [] found.kept head _ _ also isHead (values.head_ne_nil also)
    split.startsValue starts split.text_eq.symm
  have tails := split.text_eq
  rw [same] at tails
  obtain ⟨rfl, rfl⟩ := value_unique secret split.secret ends split.ends
    (List.append_cancel_left tails)
  exact ⟨found, matched, same, split⟩

/-- A scan ends inside a value behind a head at the start of the text, or after the
first character or the first match. -/
theorem LeavesOpen.cases_eq {previous : Option Char} {text : List Char}
    (leaves : LeavesOpen pattern IsHead previous text) :
    (previous.any isWordChar = false ∧ ∃ head value, text = head ++ value ∧ IsHead head ∧
        ∀ char ∈ value, isSecretChar char) ∨
      (∃ char rest, text = char :: rest ∧ (previous.any isWordChar = false → pattern text = none) ∧
        LeavesOpen pattern IsHead (some char) rest) ∨
      (previous.any isWordChar = false ∧ ∃ found value rest last, pattern text = some found ∧
        found.At text value rest ∧ LeavesOpen pattern IsHead last rest) := by
  cases leaves with
  | here boundary isHead secret => exact .inl ⟨boundary, _, _, rfl, isHead, secret⟩
  | plain unmatched leaves => exact .inr (.inl ⟨_, _, rfl, unmatched, leaves⟩)
  | matched boundary matched split leaves =>
      exact .inr (.inr ⟨boundary, _, _, _, _, matched, split, leaves⟩)

/-- An empty text leaves no value open. -/
theorem not_leavesOpen_nil (values : ValuePattern pattern IsHead) {previous : Option Char} :
    ¬ LeavesOpen pattern IsHead previous [] := by
  intro leaves
  obtain ⟨start, head, value, same, isHead, _⟩ := leaves.ending
  have empty := (List.append_eq_nil_iff.mp same.symm).2
  exact values.head_ne_nil isHead (List.append_eq_nil_iff.mp empty).1

/-- Where a text that leaves a value open does not continue one, what comes before it is
of no account. -/
theorem LeavesOpen.of_endsValue (values : ValuePattern pattern IsHead)
    {previous other : Option Char}
    {text : List Char} (leaves : LeavesOpen pattern IsHead previous text) (ends : EndsValue text) :
    LeavesOpen pattern IsHead other text := by
  rcases leaves.cases_eq with ⟨_, head, value, rfl, isHead, _⟩ | ⟨char, rest, rfl, _, later⟩ |
    ⟨_, found, value, rest, last, matched, split, _⟩
  · obtain ⟨char, head, rfl, key⟩ := values.starts head isHead
    exact (ends.cons_of_secret (isKeyChar_secret key)).elim
  · exact .plain (fun _ => values.none_of_endsValue ends) later
  · obtain ⟨char, head, kept, key⟩ := values.starts _ (values.sound _ _ matched).1
    have same := split.text_eq
    rw [kept, List.cons_append] at same
    rw [same] at ends
    exact (ends.cons_of_secret (isKeyChar_secret key)).elim

/-- A match that ends inside a text is passed. -/
theorem LeavesOpen.after_match (values : ValuePattern pattern IsHead) {previous : Option Char}
    {head value rest : List Char} (leaves : LeavesOpen pattern IsHead previous
      (head ++ (value ++ rest)))
    (boundary : previous.any isWordChar = false) (isHead : IsHead head) (nonempty : value ≠ [])
    (secret : ∀ char ∈ value, isSecretChar char) (ends : EndsValue rest) (goesOn : rest ≠ [])
    (last : Option Char) : LeavesOpen pattern IsHead last rest := by
  obtain ⟨found, matched, kept, split⟩ := values.matches isHead nonempty secret ends
  rcases leaves.cases_eq with ⟨_, other, open_, same, also, hidden⟩ | ⟨_, _, _, unmatched, _⟩ |
    ⟨_, again, value', rest', last', matched', split', later⟩
  · -- A head here is this one, and the value after it ends.
    have starts : StartsValue (open_ ++ redactedMarker) := by
      cases open_ with
      | nil => exact startsValue_marker []
      | cons char open_ => exact ⟨char, _, rfl, hidden char List.mem_cons_self⟩
    have extended : other ++ (open_ ++ redactedMarker) =
        head ++ (value ++ (rest ++ redactedMarker)) := by
      rw [← List.append_assoc, ← same]
      simp only [List.append_assoc]
    have heads := values.nested [] other head _ _ also isHead (values.head_ne_nil also) starts
      (startsValue_of_secret nonempty secret _) extended
    rw [heads] at same
    obtain ⟨next, tail, rfl⟩ := List.exists_cons_of_ne_nil goesOn
    have inside := List.append_cancel_left same
    have member : next ∈ open_ := by
      rw [← inside]
      exact List.mem_append_right _ List.mem_cons_self
    exact (ends.cons_of_secret (hidden next member)).elim
  · rw [unmatched boundary] at matched
    cases matched
  · rw [matched] at matched'
    cases matched'
    have tails := split'.text_eq
    rw [kept] at tails
    obtain ⟨rfl, rfl⟩ := value_unique secret split'.secret ends split'.ends
      (List.append_cancel_left tails)
    exact later.of_endsValue values ends

/-- The last character of a text, or the one before it, is read through its first
character. -/
theorem getLast?_cons_or (char : Char) (text : List Char) (previous : Option Char) :
    (char :: text).getLast?.or previous = text.getLast?.or (some char) := by
  cases text with
  | nil => rfl
  | cons next text =>
      rw [List.getLast?_cons_cons]
      cases last : (next :: text).getLast? with
      | none => cases List.getLast?_eq_none_iff.mp last
      | some char => rfl

/-- How a text is substituted that goes on with a value, or with a head. -/
inductive Continued (pattern : List Char → Option SecretMatch) (IsHead : List Char → Prop)
    (previous : Option Char) (before after : List Char) : Prop
  | opened (out : List Char) (last : Option Char) : LeavesOpen pattern IsHead previous before →
      substitute pattern previous 0 (before ++ after) =
        out ++ (redactedMarker ++ substitute pattern last 0 (after.dropWhile isSecretChar)) →
          Continued pattern IsHead previous before after
  | crossed (out start later value rest : List Char) (last : Option Char) :
      ¬ LeavesOpen pattern IsHead previous before → start ≠ [] → later ≠ [] →
        IsHead (start ++ later) → value ≠ [] → (∀ char ∈ value, isSecretChar char) →
          EndsValue rest → after = later ++ (value ++ rest) →
            substitute pattern previous 0 (before ++ after) =
              out ++ (redactedMarker ++ substitute pattern last 0 rest) →
                Continued pattern IsHead previous before after
  | apart : ¬ LeavesOpen pattern IsHead previous before →
      substitute pattern previous 0 (before ++ after) =
        substitute pattern previous 0 before ++
          substitute pattern (before.getLast?.or previous) 0 after →
            Continued pattern IsHead previous before after

/-- What begins with a value begins with one when more follows it. -/
theorem startsValue_append {value after : List Char} (secret : ∀ char ∈ value, isSecretChar char)
    (starts : StartsValue after) : StartsValue (value ++ after) := by
  cases value with
  | nil => exact starts
  | cons char value => exact ⟨char, value ++ after, rfl, secret char List.mem_cons_self⟩

/-- Where a longer text has no match, a start of it has none. -/
theorem ValuePattern.none_of_longer (values : ValuePattern pattern IsHead) (text after : List Char)
    (unmatched : pattern (text ++ after) = none) : pattern text = none := by
  cases matched : pattern text with
  | none => rfl
  | some found =>
      obtain ⟨isHead, value, rest, split⟩ := values.sound _ _ matched
      have longer := startsValue_of_secret split.nonempty split.secret (rest ++ after)
      have whole : text ++ after = found.kept ++ (value ++ (rest ++ after)) := by
        rw [split.text_eq]
        simp only [List.append_assoc]
      have present := values.finds found.kept _ isHead longer
      rw [← whole, unmatched] at present
      cases present

/-- Where nothing matches in a longer text, no value is left open from here on. -/
theorem LeavesOpen.after_plain (values : ValuePattern pattern IsHead) {previous : Option Char}
    {char : Char} {before after : List Char} (starts : StartsValue after)
    (unmatched : previous.any isWordChar = false → pattern (char :: (before ++ after)) = none)
    (leaves : LeavesOpen pattern IsHead previous (char :: before)) :
    LeavesOpen pattern IsHead (some char) before := by
  rcases leaves.cases_eq with
      ⟨boundary, head, value, same, isHead, secret⟩ | ⟨_, _, same, _, later⟩ |
    ⟨boundary, found, value, rest, last, matched, split, _⟩
  · have present := values.finds head _ isHead (startsValue_append secret starts)
    rw [← List.append_assoc, ← same, List.cons_append, unmatched boundary] at present
    cases present
  · cases same
    exact later
  · have alone := values.none_of_longer (char :: before) after (unmatched boundary)
    rw [matched] at alone
    cases alone

/-- No value is left open inside of a head. -/
theorem not_leavesOpen_of_head (values : ValuePattern pattern IsHead) {previous : Option Char}
    {before later after : List Char} (isHead : IsHead (before ++ later)) (goesOn : later ≠ [])
    (starts : StartsValue (later ++ after)) (valued : StartsValue after) :
    ¬ LeavesOpen pattern IsHead previous before := by
  intro leaves
  obtain ⟨start, head, value, rfl, also, secret⟩ := leaves.ending
  have whole : IsHead (start ++ (head ++ (value ++ later))) := by
    simp only [List.append_assoc] at isHead
    exact isHead
  have longer : head ++ (value ++ later) ≠ [] :=
    fun empty => values.head_ne_nil also (List.append_eq_nil_iff.mp empty).1
  have same := values.nested start (head ++ (value ++ later)) head after (value ++ (later ++ after))
      whole
    also longer valued (startsValue_append secret starts) (by simp only [List.append_assoc])
  have empty := List.append_cancel_left (same.trans (List.append_nil head).symm)
  exact goesOn (List.append_eq_nil_iff.mp empty).2

/-- A text goes on after a beginning inside an open value, inside a head, or apart from it. -/
theorem substitute_append (values : ValuePattern pattern IsHead) (previous : Option Char)
    (before : List Char) {after : List Char} (starts : StartsValue after) :
    Continued pattern IsHead previous before after := by
  generalize whole : before ++ after = text
  induction previous, text using scan_induction values.spec generalizing before with
  | nil =>
      obtain ⟨_, _, rfl, _⟩ := starts
      exact (List.cons_ne_nil _ _ (List.append_eq_nil_iff.mp whole).2).elim
  | plain previous char text unmatched ih =>
      cases before with
      | nil => exact .apart (not_leavesOpen_nil values) rfl
      | cons first before =>
          rw [List.cons_append] at whole
          obtain ⟨rfl, rfl⟩ := List.cons.inj whole
          have alone := fun boundary =>
            values.none_of_longer (first :: before) after (unmatched boundary)
          have never := fun closed : ¬ LeavesOpen pattern IsHead (some first) before =>
            fun leaves => closed (LeavesOpen.after_plain values starts unmatched leaves)
          cases ih before rfl with
          | opened out last leaves result =>
              refine .opened (first :: out) last (.plain alone leaves) ?_
              rw [List.cons_append, substitute_unmatched unmatched, result, List.cons_append]
          | crossed out start later value rest last closed crosses goesOn isHead nonempty secret
              ends
              split result =>
              refine .crossed (first :: out) start later value rest last (never closed) crosses
                goesOn
                isHead nonempty secret ends split ?_
              rw [List.cons_append, substitute_unmatched unmatched, result, List.cons_append]
          | apart closed result =>
              refine .apart (never closed) ?_
              rw [List.cons_append, substitute_unmatched unmatched, result, substitute_unmatched
                alone,
                List.cons_append, getLast?_cons_or]
  | matched previous char text found value rest boundary here split ih =>
      have isHead := (values.sound _ _ here).1
      obtain ⟨last, result⟩ := substitute_matched boundary here split
      have parts := whole.trans split.text_eq
      rw [← whole] at result
      rcases List.append_eq_append_iff.mp parts with ⟨later, kept, remains⟩ | ⟨middle, rfl, remains⟩
      · by_cases goesOn : later = []
        · subst goesOn
          rw [List.append_nil] at kept
          rw [List.nil_append] at remains
          refine .opened found.kept last ?_ ?_
          · rw [← kept, ← List.append_nil found.kept]
            exact .here boundary isHead fun _ absent => (List.not_mem_nil absent).elim
          · rw [result, remains, dropWhile_append_of_all split.secret split.ends]
        · by_cases empty : before = []
          · subst empty
            exact .apart (not_leavesOpen_nil values) rfl
          · rw [kept] at isHead
            refine .crossed found.kept before later value rest last ?_ empty goesOn isHead
              split.nonempty
              split.secret split.ends remains result
            rw [remains] at starts
            exact not_leavesOpen_of_head values isHead goesOn starts split.startsValue
      · rcases List.append_eq_append_iff.mp remains with ⟨ended, rfl, rfl⟩ | ⟨more, valued, rfl⟩
        · by_cases empty : ended = []
          · subst empty
            obtain ⟨first, tail, rfl, secret⟩ := starts
            exact (split.ends.cons_of_secret secret).elim
          have ends : EndsValue ended := by
            obtain ⟨first, tail, rfl⟩ := List.exists_cons_of_ne_nil empty
            exact split.ends
          -- The match ends before what goes on, and is the same without it.
          obtain ⟨alone, matched, kept, parted⟩ :=
            values.matches isHead split.nonempty split.secret ends
          obtain ⟨other, passed⟩ := substitute_matched boundary matched parted
          rw [kept] at passed
          have never := fun closed : ¬ LeavesOpen pattern IsHead last ended => fun leaves =>
            closed (LeavesOpen.after_match values leaves boundary isHead split.nonempty split.secret
              ends
              empty last)
          cases ih last ended rfl with
          | opened out previous leaves later =>
              refine .opened (found.kept ++ (redactedMarker ++ out)) previous
                (.matched boundary matched parted leaves) ?_
              rw [result, later]
              simp only [List.append_assoc]
          | crossed out start beyond hidden final previous closed crosses goesOn crossing nonempty
              secret stops split later =>
              refine .crossed (found.kept ++ (redactedMarker ++ out)) start beyond hidden final
                previous
                (never closed) crosses goesOn crossing nonempty secret stops split ?_
              rw [result, later]
              simp only [List.append_assoc]
          | apart closed later =>
              refine .apart (never closed) ?_
              have lasts : (found.kept ++ (value ++ ended)).getLast? = ended.getLast? := by
                rw [← List.append_assoc, List.getLast?_append_of_ne_nil _ empty]
              have present : ended.getLast?.or previous = ended.getLast?.or last := by
                rw [List.getLast?_eq_some_getLast empty]
                rfl
              rw [result, later, passed, lasts, present, substitute_of_endsValue values ends other
                last]
              simp only [List.append_assoc]
        · have secret : ∀ char ∈ middle ++ more, isSecretChar char := by
            rw [← valued]
            exact split.secret
          refine .opened found.kept last ?_ ?_
          · exact .here boundary isHead fun char member =>
              secret char (List.mem_append_left _ member)
          · rw [result, dropWhile_append_of_all
              (fun char member => secret char (List.mem_append_right _ member)) split.ends]

end Continuing

section Endings

variable {pattern : List Char → Option SecretMatch} {IsHead : List Char → Prop}

/-- The empty text continues no value. -/
theorem endsValue_nil : EndsValue [] := fun _ absent => by cases absent

/-- Characters of a value that do not continue one are none. -/
theorem EndsValue.eq_nil {text : List Char} (ends : EndsValue text)
    (secret : ∀ char ∈ text, isSecretChar char) : text = [] := by
  cases text with
  | nil => rfl
  | cons char text => exact (ends.cons_of_secret (secret char List.mem_cons_self)).elim

/-- A match reaches the end of the text when its value does. -/
theorem substitute_head (values : ValuePattern pattern IsHead) {previous : Option Char}
    {head value : List Char} (boundary : previous.any isWordChar = false) (isHead : IsHead head)
    (nonempty : value ≠ []) (secret : ∀ char ∈ value, isSecretChar char) :
    substitute pattern previous 0 (head ++ value) = head ++ redactedMarker := by
  obtain ⟨found, matched, kept, split⟩ :=
    values.matches isHead nonempty secret endsValue_nil
  obtain ⟨last, result⟩ := substitute_matched boundary matched split
  rw [List.append_nil, kept] at result
  rw [result]
  rfl

/-- The marker by itself has nothing to replace. -/
theorem substitute_marker (values : ValuePattern pattern IsHead) (previous : Option Char) :
    substitute pattern previous 0 redactedMarker = redactedMarker := by
  have clean := Clean.marker values (List.suffix_refl redactedMarker) endsValue_nil
    (show Clean pattern none [] from trivial) previous
  rw [List.append_nil] at clean
  exact substitute_of_clean values clean

/-- A text that ends in the marker does so after a pass. -/
theorem substitute_ends (values : ValuePattern pattern IsHead) {previous : Option Char}
    {text : List Char} (ends : redactedMarker <:+ text) :
    redactedMarker <:+ substitute pattern previous 0 text := by
  obtain ⟨before, rfl⟩ := ends
  have starts := startsValue_marker []
  rw [List.append_nil] at starts
  cases substitute_append values previous before starts with
  | opened out last _ result =>
      have none : redactedMarker.dropWhile isSecretChar = [] := by decide
      rw [result, none]
      exact ⟨out, rfl⟩
  | crossed out start later value rest last _ _ goesOn isHead _ _ _ split _ =>
      obtain ⟨char, later, rfl⟩ := List.exists_cons_of_ne_nil goesOn
      have first : '[' = char := (List.cons.inj split).1
      have member : char ∈ start ++ char :: later := List.mem_append_right _ List.mem_cons_self
      exact ((values.unmarked _ isHead char member).1 first.symm).elim
  | apart _ result =>
      rw [result, substitute_marker values]
      exact List.suffix_append _ _

/-- The pattern matches somewhere in the text, which comes after this character. -/
def HoldsMatch (IsHead : List Char → Prop) (previous : Option Char) (text : List Char) : Prop :=
  ∃ start head value, text = start ++ (head ++ value) ∧
    (start.getLast?.or previous).any isWordChar = false ∧ IsHead head ∧ StartsValue value

/-- Without white space, the value of the first match is the rest of the text. -/
theorem substitute_value (values : ValuePattern pattern IsHead) (previous : Option Char)
    (text : List Char) : (∀ char ∈ text, isSecretChar char) →
      (HoldsMatch IsHead previous text → redactedMarker <:+ substitute pattern previous 0 text) ∧
        (¬ HoldsMatch IsHead previous text → substitute pattern previous 0 text = text) := by
  induction previous, text using scan_induction values.spec with
  | nil =>
      intro _
      refine ⟨?_, fun _ => rfl⟩
      rintro ⟨start, head, value, same, _, isHead, _⟩
      have empty := (List.append_eq_nil_iff.mp same.symm).2
      exact (values.head_ne_nil isHead (List.append_eq_nil_iff.mp empty).1).elim
  | matched previous char text found value rest boundary here split _ =>
      intro secret
      have isHead := (values.sound _ _ here).1
      have ended : rest = [] := by
        refine split.ends.eq_nil fun char member => secret char ?_
        rw [split.text_eq]
        exact List.mem_append_right _ (List.mem_append_right _ member)
      subst ended
      have whole := split.text_eq
      rw [List.append_nil] at whole
      refine ⟨fun _ => ?_, fun absent => (absent ?_).elim⟩
      · rw [whole, substitute_head values boundary isHead split.nonempty split.secret]
        exact List.suffix_append _ _
      · exact ⟨[], found.kept, value, whole, boundary, isHead,
          startsValue_of_value split.nonempty split.secret⟩
  | plain previous char text unmatched ih =>
      intro secret
      obtain ⟨masks, keeps⟩ := ih fun char member => secret char (List.mem_cons_of_mem _ member)
      rw [substitute_unmatched unmatched]
      constructor
      · rintro ⟨start, head, value, same, boundary, isHead, starts⟩
        cases start with
        | nil =>
            have present := values.finds head value isHead starts
            rw [← show char :: text = head ++ value from same, unmatched boundary] at present
            cases present
        | cons first start =>
            obtain ⟨rfl, rfl⟩ := List.cons.inj same
            rw [getLast?_cons_or] at boundary
            exact (masks ⟨start, head, value, rfl, boundary, isHead, starts⟩).trans
              (List.suffix_cons _ _)
      · intro absent
        rw [keeps]
        rintro ⟨start, head, value, rfl, boundary, isHead, starts⟩
        exact absent ⟨char :: start, head, value, rfl, by rw [getLast?_cons_or]; exact boundary,
          isHead, starts⟩

/-- What no key starts in is kept. -/
theorem substitute_not_key (values : ValuePattern pattern IsHead) {piece : List Char}
    (none : ∀ char ∈ piece, isKeyChar char = false) (previous : Option Char) (rest : List Char) :
    substitute pattern previous 0 (piece ++ rest) =
      piece ++ substitute pattern (piece.getLast?.or previous) 0 rest := by
  induction piece generalizing previous with
  | nil => rfl
  | cons char piece ih =>
      have unmatched : pattern (char :: (piece ++ rest)) = Option.none := by
        cases matched : pattern (char :: (piece ++ rest)) with
        | none => rfl
        | some found =>
            obtain ⟨isHead, value, tail, split⟩ := values.sound _ _ matched
            obtain ⟨first, head, kept, key⟩ := values.starts _ isHead
            have whole := split.text_eq
            rw [kept, List.cons_append] at whole
            rw [← (List.cons.inj whole).1, none char List.mem_cons_self] at key
            cases key
      rw [List.cons_append, substitute_unmatched fun _ => unmatched,
        ih (fun char member => none char (List.mem_cons_of_mem _ member)), getLast?_cons_or,
        List.cons_append]

end Endings

section Tails

/-- No range of the table holds white space: each lies between two such characters. -/
theorem alphanumericRanges_spaceless : ∀ range ∈ alphanumericRanges, (0x20 < range.1 &&
    (range.2 < 0x85 || 0x85 < range.1) && (range.2 < 0xA0 || 0xA0 < range.1) &&
    (range.2 < 0x1680 || 0x1680 < range.1) && (range.2 < 0x2000 || 0x200A < range.1) &&
    (range.2 < 0x2028 || 0x205F < range.1) && (range.2 < 0x3000 || 0x3000 < range.1)) = true :=
  List.all_eq_true.mp (by decide +kernel)

/-- White space is no part of a word. -/
theorem isWordChar_of_space {char : Char} (space : isSpaceChar char) : isWordChar char = false := by
  unfold isSpaceChar at space
  simp only [Bool.or_eq_true, Bool.and_eq_true, decide_eq_true_eq, beq_iff_eq] at space
  rw [Bool.eq_false_iff]
  intro word
  unfold isWordChar isAlphanumeric Char.isAlphanum Char.isAlpha Char.isUpper Char.isLower
    Char.isDigit at word
  simp only [Bool.or_eq_true, Bool.and_eq_true, decide_eq_true_eq, beq_iff_eq,
    List.any_eq_true] at word
  rcases word with rfl | ((⟨first, last⟩ | ⟨first, last⟩) | ⟨first, last⟩) |
    ⟨wide, range, listed, first, last⟩
  · revert space
    decide
  · have first : 65 ≤ char.toNat := first
    have last : char.toNat ≤ 90 := last
    omega
  · have first : 97 ≤ char.toNat := first
    have last : char.toNat ≤ 122 := last
    omega
  · have first : 48 ≤ char.toNat := first
    have last : char.toNat ≤ 57 := last
    omega
  · have apart := alphanumericRanges_spaceless range listed
    simp only [Bool.and_eq_true, Bool.or_eq_true, decide_eq_true_eq] at apart
    omega

/-- White space is no character of a value. -/
theorem isSecretChar_of_space {char : Char} (space : isSpaceChar char) : isSecretChar char =
    false := by
  unfold isSecretChar
  rw [space]
  rfl

/-- An empty text has no value to replace. -/
theorem Replaced.of_nil {allowed : Option Char → Prop} {previous : Option Char} {after : List Char}
    (replaced : Replaced allowed previous [] after) : after = [] := by
  generalize empty : ([] : List Char) = before at replaced
  cases replaced with
  | nil => rfl
  | keep => cases empty
  | mark _ nonempty => exact (nonempty (List.append_eq_nil_iff.mp empty.symm).1).elim

/-- What no value goes on with stays at the end. -/
theorem Replaced.concat {allowed : Option Char → Prop} {previous : Option Char}
    {before after : List Char}
    {char : Char} (replaced : Replaced allowed previous (before ++ [char]) after)
    (other : isSecretChar char = false) : ∃ out, after = out ++ [char] := by
  generalize whole : before ++ [char] = text at replaced
  induction replaced generalizing before with
  | nil => exact (List.cons_ne_nil _ _ (List.append_eq_nil_iff.mp whole).2).elim
  | keep first replaced ih =>
      cases before with
      | nil =>
          obtain ⟨rfl, rfl⟩ := List.cons.inj whole
          rw [replaced.of_nil]
          exact ⟨[], rfl⟩
      | cons head before =>
          obtain ⟨rfl, rfl⟩ := List.cons.inj whole
          obtain ⟨out, rfl⟩ := ih rfl
          exact ⟨head :: out, rfl⟩
  | mark _ nonempty secret _ replaced ih =>
      rcases List.append_eq_append_iff.mp whole with
          ⟨ending, valued, remains⟩ | ⟨middle, _, remains⟩
      · cases ending with
        | nil =>
            obtain ⟨out, rfl⟩ := @ih [] remains
            exact ⟨redactedMarker ++ out, (List.append_assoc _ _ _).symm⟩
        | cons first ending =>
            have same := (List.cons.inj remains).1
            have member : first ∈ _ := valued ▸ List.mem_append_right _ List.mem_cons_self
            have hidden := secret first member
            rw [← same, other] at hidden
            cases hidden
      · obtain ⟨out, rfl⟩ := ih remains.symm
        exact ⟨redactedMarker ++ out, (List.append_assoc _ _ _).symm⟩

/-- White space at the end of a text is told from what comes before it. -/
theorem ending_unique {first second spaces spaces' : List Char} {char char' : Char}
    (all : ∀ char ∈ spaces, isSpaceChar char) (all' : ∀ char ∈ spaces', isSpaceChar char)
    (other : isSpaceChar char = false) (other' : isSpaceChar char' = false)
    (same : first ++ char :: spaces = second ++ char' :: spaces') : char = char' := by
  have reversed := congrArg List.reverse same
  simp only [List.reverse_append, List.reverse_cons, List.append_assoc,
    List.singleton_append] at reversed
  obtain ⟨_, rest⟩ := spaces_unique (fun char member => all char (List.mem_reverse.mp member))
    (fun char member => all' char (List.mem_reverse.mp member)) (stopsAt_cons other)
    (stopsAt_cons other') reversed
  exact (List.cons.inj rest).1

/-- Before the white space at its end, the head of a bearer token has a letter. -/
theorem IsBearerHead.ending {head : List Char} (isHead : IsBearerHead head) :
    ∃ body letter gap, head = body ++ letter :: gap ∧ isKeyChar letter ∧
      ∀ char ∈ gap, isSpaceChar char := by
  obtain ⟨key, before, after, scheme, gap, _, _, _, schemed, gapped, _, rfl⟩ := isHead
  have nonempty : scheme ≠ [] := by
    intro empty
    have long := schemed.length_eq
    rw [empty] at long
    cases long
  have member := List.getLast_mem nonempty
  refine ⟨key ++ (before ++ ':' :: (after ++ scheme.dropLast)), scheme.getLast nonempty, gap, ?_,
    schemed.keyChars bearer_keyChars _ member, gapped⟩
  conv => lhs; rw [← List.dropLast_append_getLast nonempty]
  simp only [List.append_assoc, List.cons_append, List.nil_append]

/-- The marker at the end of a text stands after what no value goes on with. -/
theorem marker_suffix_iff {before value : List Char} {char : Char}
    (other : isSecretChar char = false) :
    redactedMarker <:+ (before ++ [char]) ++ value ↔ redactedMarker <:+ value := by
  constructor
  · rintro ⟨start, same⟩
    rcases List.append_eq_append_iff.mp same with ⟨middle, ended, marker⟩ | ⟨middle, _, rest⟩
    · by_cases empty : middle = []
      · subst empty
        rw [List.nil_append] at marker
        exact ⟨[], by rw [marker, List.nil_append]⟩
      · have last := congrArg List.getLast? ended
        rw [List.getLast?_append_of_ne_nil _ empty, List.getLast?_concat] at last
        have member : char ∈ redactedMarker := by
          rw [marker]
          exact List.mem_append_left _ (List.mem_of_getLast? last.symm)
        rw [marker_secret member] at other
        cases other
    · exact ⟨middle, rest.symm⟩
  · intro ends
    exact ends.trans (List.suffix_append _ _)

/-- Without white space there is no bearer token. -/
theorem bearer_value {value : List Char} (previous : Option Char)
    (secret : ∀ char ∈ value, isSecretChar char) :
    substitute matchBearerSecret previous 0 value = value := by
  apply (substitute_value bearerPattern previous value secret).2
  rintro ⟨before, head, rest, rfl, _, isHead, _⟩
  obtain ⟨other, white, ending⟩ := isHead.afterSpace
  have member := List.mem_append_right before
    (List.mem_append_left rest (List.mem_of_getLast? ending))
  rw [isSpaceChar_of_secret (secret other member)] at white
  cases white

/-- A value that comes after white space and no header is left by the pass for bearer tokens. -/
theorem bearer_tail {start value : List Char} {space : Char} (previous : Option Char)
    (spaced : isSpaceChar space) (nonempty : value ≠ [])
    (secret : ∀ char ∈ value, isSecretChar char)
    (noHead : ∀ before head, start ++ [space] = before ++ head → ¬ IsBearerHead head) :
    redactedMarker <:+ substitute matchBearerSecret previous 0 ((start ++ [space]) ++ value) ↔
      redactedMarker <:+ value := by
  have plain := isSecretChar_of_space spaced
  cases substitute_append bearerPattern previous (start ++ [space])
    (startsValue_of_value nonempty secret) with
  | opened out last leaves result =>
      obtain ⟨before, head, piece, same, isHead, hidden⟩ := leaves.ending
      have empty : piece = [] := by
        by_contra present
        have last := congrArg List.getLast? same
        rw [← List.append_assoc, List.getLast?_append_of_ne_nil _ present,
          List.getLast?_concat] at last
        have member := List.mem_of_getLast? last.symm
        rw [hidden space member] at plain
        cases plain
      subst empty
      rw [List.append_nil] at same
      exact (noHead before head same isHead).elim
  | crossed out begun later hidden rest last _ _ goesOn isHead _ _ _ split _ =>
      obtain ⟨other, white, ending⟩ := isHead.afterSpace
      rw [List.getLast?_append_of_ne_nil _ goesOn] at ending
      have member : other ∈ value := by
        rw [split]
        exact List.mem_append_left _ (List.mem_of_getLast? ending)
      rw [isSpaceChar_of_secret (secret other member)] at white
      cases white
  | apart _ result =>
      have replaced := substitute_replaced bearerPattern (fun _ isHead => isHead.afterSpace)
          previous
        (start ++ [space])
      obtain ⟨out, shorter⟩ := replaced.concat plain
      rw [result, bearer_value _ secret, shorter]
      exact marker_suffix_iff plain

/-- A value that comes after white space behind a bracket or a sign is left. -/
theorem bearer_tail_of_sign {start spaces value : List Char} {sign : Char} (previous : Option Char)
    (plain : isSpaceChar sign = false) (noKey : isKeyChar sign = false)
    (all : ∀ char ∈ spaces, isSpaceChar char) (wide : spaces ≠ []) (nonempty : value ≠ [])
    (secret : ∀ char ∈ value, isSecretChar char) :
    redactedMarker <:+ substitute matchBearerSecret previous 0
      ((start ++ sign :: spaces) ++ value) ↔
      redactedMarker <:+ value := by
  have split : start ++ sign :: spaces =
      (start ++ sign :: spaces.dropLast) ++ [spaces.getLast wide] := by
    rw [List.append_assoc, List.cons_append, List.dropLast_append_getLast]
  rw [split]
  apply bearer_tail previous (all _ (List.getLast_mem wide)) nonempty secret
  intro before head same isHead
  obtain ⟨body, letter, gap, rfl, key, gapped⟩ := isHead.ending
  rw [← split, ← List.append_assoc] at same
  have equal := ending_unique all gapped plain (isSpaceChar_of_key key) same
  rw [equal, key] at noKey
  cases noKey

/-- A sign may stand in a value, but in neither a key, a word nor white space. -/
theorem isSign_plain {sign : Char} (isSign : sign = ':' ∨ sign = '=') :
    isSpaceChar sign = false ∧ isKeyChar sign = false ∧ isSecretChar sign ∧ isWordChar sign =
      false ∧
      sign ≠ '[' := by
  rcases isSign with rfl | rfl <;> decide

/-- A value stops at white space. -/
theorem stopsAt_spaces {spaces rest : List Char} (all : ∀ char ∈ spaces, isSpaceChar char)
    (wide : spaces ≠ []) : StopsAt isSecretChar (spaces ++ rest) := by
  obtain ⟨space, spaces, rfl⟩ := List.exists_cons_of_ne_nil wide
  exact stopsAt_cons (isSecretChar_of_space (all space List.mem_cons_self))

/-- After white space or a sign stands no part of a word. -/
theorem boundary_of_last {piece : List Char} (nonempty : piece ≠ [])
    (plain : isWordChar (piece.getLast nonempty) = false) (previous : Option Char) :
    (piece.getLast?.or previous).any isWordChar = false := by
  rw [List.getLast?_eq_some_getLast nonempty]
  exact plain

/-- What remains of a head after an open value took its key: no key starts in it, and the pass for
bearer tokens leaves the value after it. -/
theorem missed_tail {head value : List Char} (isHead : IsKeyHead head)
    (spaced : ∃ char ∈ head, isSpaceChar char) (nonempty : value ≠ [])
    (secret : ∀ char ∈ value, isSecretChar char) :
    ∃ piece, (head ++ value).dropWhile isSecretChar = piece ++ value ∧
      (∀ char ∈ piece, isKeyChar char = false) ∧
      (∀ previous, (piece.getLast?.or previous).any isWordChar = false) ∧
      ∀ out previous, redactedMarker <:+
          substitute matchBearerSecret previous 0 (out ++ (redactedMarker ++ (piece ++ value))) ↔
        redactedMarker <:+ value := by
  obtain ⟨word, member, key, before, sign, after, spells, separated, spaces, rfl⟩ := isHead
  obtain ⟨plain, noKey, hidden, noWord, unlike⟩ := isSign_plain separated.isSign
  have keyed : ∀ char ∈ key, isSecretChar char := fun char inside =>
    isKeyChar_secret (separated.keyChars char inside)
  have marker : redactedMarker = "[REDACTED".toList ++ [']'] := by decide
  by_cases before_empty : before = []
  · subst before_empty
    have wide : after ≠ [] := by
      rintro rfl
      obtain ⟨char, inside, space⟩ := spaced
      rcases List.mem_append.mp inside with early | late
      · rw [isSpaceChar_of_key (separated.keyChars char early)] at space
        cases space
      · rw [List.mem_singleton.mp late, plain] at space
        cases space
    have taken : ∀ char ∈ key ++ [sign], isSecretChar char := by
      intro char inside
      rcases List.mem_append.mp inside with early | late
      · exact keyed char early
      · rwa [List.mem_singleton.mp late]
    refine ⟨after, ?_, fun char inside => isKeyChar_not_space (spaces char inside), ?_, ?_⟩
    · have split : key ++ ([] ++ sign :: after) ++ value = (key ++ [sign]) ++ (after ++ value) := by
        simp only [List.append_assoc, List.cons_append, List.nil_append]
      rw [split, dropWhile_append_of_all taken]
      exact stopsAt_spaces spaces wide
    · exact boundary_of_last wide (isWordChar_of_space (spaces _ (List.getLast_mem wide)))
    · intro out previous
      have split : out ++ (redactedMarker ++ (after ++ value)) =
          ((out ++ "[REDACTED".toList) ++ ']' :: after) ++ value := by
        rw [marker]
        simp only [List.append_assoc, List.cons_append, List.nil_append]
      rw [split]
      exact bearer_tail_of_sign previous (by decide) (by decide) spaces wide nonempty secret
  · have taken : (key ++ (before ++ sign :: after) ++ value).dropWhile isSecretChar =
        (before ++ sign :: after) ++ value := by
      rw [List.append_assoc, dropWhile_append_of_all keyed]
      rw [List.append_assoc]
      exact stopsAt_spaces separated.spaces before_empty
    have apart : before ++ sign :: after ≠ [] := fun empty =>
      before_empty (List.append_eq_nil_iff.mp empty).1
    refine ⟨before ++ sign :: after, taken, separated.not_key spaces, ?_, ?_⟩
    · apply boundary_of_last apart
      rw [List.getLast_append_of_ne_nil _ (List.cons_ne_nil sign after)]
      by_cases after_empty : after = []
      · subst after_empty
        exact noWord
      · rw [List.getLast_cons after_empty]
        exact isWordChar_of_space (spaces _ (List.getLast_mem after_empty))
    · intro out previous
      by_cases after_empty : after = []
      · subst after_empty
        have split : out ++ (redactedMarker ++ (before ++ [sign] ++ value)) =
            ((out ++ "[REDACTED".toList) ++ ']' :: before) ++ (sign :: value) := by
          rw [marker]
          simp only [List.append_assoc, List.cons_append, List.nil_append]
        rw [split, bearer_tail_of_sign previous (by decide) (by decide) separated.spaces
          before_empty
          (List.cons_ne_nil sign value) fun char inside => ?_]
        · rw [List.suffix_cons_iff]
          refine ⟨fun ends => ends.resolve_left fun same => ?_, .inr⟩
          exact unlike (List.cons.inj same).1.symm
        · rcases List.mem_cons.mp inside with rfl | later
          · exact hidden
          · exact secret char later
      · have split : out ++ (redactedMarker ++ (before ++ sign :: after ++ value)) =
            ((out ++ (redactedMarker ++ before)) ++ sign :: after) ++ value := by
          simp only [List.append_assoc, List.cons_append]
        rw [split]
        exact bearer_tail_of_sign previous plain noKey spaces after_empty nonempty secret

end Tails

section Reach

/-- The value ends in the marker, or will: a key with its sign and a value stands in it. -/
def EndsMasked (value : List Char) : Prop :=
  redactedMarker <:+ value ∨ HoldsMatch IsKeyHead none value

/-- After a word boundary a match is found as at the start of a text. -/
theorem holdsMatch_iff {IsHead : List Char → Prop} {previous : Option Char} {text : List Char}
    (boundary : previous.any isWordChar = false) :
    HoldsMatch IsHead previous text ↔ HoldsMatch IsHead none text := by
  have same : ∀ start : List Char, (start.getLast?.or previous).any isWordChar = false ↔
      (start.getLast?.or none).any isWordChar = false := by
    intro start
    cases start.getLast? with
    | none => exact ⟨fun _ => rfl, fun _ => boundary⟩
    | some char => exact Iff.rfl
  constructor
  · rintro ⟨start, head, value, whole, apart, isHead, starts⟩
    exact ⟨start, head, value, whole, (same start).mp apart, isHead, starts⟩
  · rintro ⟨start, head, value, whole, apart, isHead, starts⟩
    exact ⟨start, head, value, whole, (same start).mpr apart, isHead, starts⟩

/-- The first pass leaves a value that it does not mask. -/
theorem keyValue_of_value {previous : Option Char} {value : List Char}
    (boundary : previous.any isWordChar = false) (secret : ∀ char ∈ value, isSecretChar char) :
    redactedMarker <:+ substitute matchKeyValueSecret previous 0 value ↔ EndsMasked value := by
  obtain ⟨masks, keeps⟩ := substitute_value keyValuePattern previous value secret
  rw [holdsMatch_iff boundary] at masks keeps
  by_cases holds : HoldsMatch IsKeyHead none value
  · exact ⟨fun _ => .inr holds, fun _ => masks holds⟩
  · rw [keeps holds]
    exact ⟨.inl, fun ends => ends.resolve_right holds⟩

variable {before head value : List Char}

/-- A head starts with characters of a value. -/
theorem IsKeyHead.startsValue (isHead : IsKeyHead head) (rest : List Char) :
    StartsValue (head ++ rest) := by
  obtain ⟨char, tail, rfl, key⟩ := keyValuePattern.starts head isHead
  exact ⟨char, tail ++ rest, rfl, isKeyChar_secret key⟩

/-- A head consists of characters of a value and of white space. -/
theorem IsKeyHead.chars (isHead : IsKeyHead head) :
    ∀ char ∈ head, isSecretChar char ∨ isSpaceChar char := by
  obtain ⟨_, _, key, before, sign, after, _, separated, spaces, rfl⟩ := isHead
  intro char member
  rcases List.mem_append.mp member with early | late
  · exact .inl (isKeyChar_secret (separated.keyChars char early))
  · rcases List.mem_append.mp late with spaced | late
    · exact .inr (separated.spaces char spaced)
    · rcases List.mem_cons.mp late with rfl | last
      · exact .inl (isSign_plain separated.isSign).2.2.1
      · exact .inr (spaces char last)

/-- A key-value secret is redacted unless an earlier value takes its key and white space keeps it
out of that value; then its own text decides. -/
theorem redacted_key_iff (boundary : before.getLast?.any isWordChar = false)
    (isHead : IsKeyHead head)
    (nonempty : value ≠ []) (secret : ∀ char ∈ value, isSecretChar char) :
    redactedMarker <:+ redacted (before ++ (head ++ value)) ↔
      (LeavesOpen matchKeyValueSecret IsKeyHead none before → (∃ char ∈ head, isSpaceChar char) →
        EndsMasked value) := by
  unfold redacted
  cases substitute_append keyValuePattern none before (isHead.startsValue value) with
  | opened out last leaves result =>
      rw [result]
      by_cases spaced : ∃ char ∈ head, isSpaceChar char
      · obtain ⟨piece, taken, noKey, apart, tail⟩ := missed_tail isHead spaced nonempty secret
        rw [taken, substitute_not_key keyValuePattern noKey]
        have valued := keyValue_of_value (apart last) secret
        constructor
        · intro ends _ _
          by_contra shown
          have kept := (substitute_value keyValuePattern (piece.getLast?.or last) value secret).2
          rw [holdsMatch_iff (apart last)] at kept
          rw [kept fun holds => shown (.inr holds), tail] at ends
          exact shown (.inl ends)
        · intro masked
          have ends := valued.mpr (masked leaves spaced)
          refine substitute_ends bearerPattern (ends.trans ?_)
          rw [← List.append_assoc, ← List.append_assoc]
          exact List.suffix_append _ _
      · have all : ∀ char ∈ head ++ value, isSecretChar char := by
          intro char member
          rcases List.mem_append.mp member with early | late
          · exact (isHead.chars char early).resolve_right fun space => spaced ⟨char, early, space⟩
          · exact secret char late
        have none : (head ++ value).dropWhile isSecretChar = [] := List.dropWhile_eq_nil_iff.mpr all
        rw [none]
        exact ⟨fun _ _ present => (spaced present).elim,
          fun _ => substitute_ends bearerPattern (List.suffix_append _ _)⟩
  | crossed out start later masked rest last closed _ goesOn crossing present hidden ends split
      result =>
      refine ⟨fun _ leaves => (closed leaves).elim, fun _ => substitute_ends bearerPattern ?_⟩
      have same := keyValuePattern.nested start later head _ _ crossing isHead goesOn
        (startsValue_of_secret present hidden rest)
        (startsValue_of_value nonempty secret) split.symm
      rw [same] at split
      have whole := List.append_cancel_left split
      have ended : rest = [] := ends.eq_nil fun char member =>
        secret char (by rw [whole]; exact List.mem_append_right masked member)
      rw [result, ended]
      exact List.suffix_append _ _
  | apart closed result =>
      refine ⟨fun _ leaves => (closed leaves).elim, fun _ => substitute_ends bearerPattern ?_⟩
      rw [Option.or_none] at result
      rw [result, substitute_head keyValuePattern boundary isHead nonempty secret,
        ← List.append_assoc]
      exact List.suffix_append _ _

/-- `Authorization: Bearer ` -/
def bearerPrefix : List Char := "Authorization: Bearer ".toList

/-- What remains of the header after a value took its name. -/
def bearerScheme : List Char := " Bearer ".toList

/-- What remains of the header is no secret with a key. -/
theorem keyValue_scheme (previous : Option Char) (rest : List Char) :
    substitute matchKeyValueSecret previous 0 (bearerScheme ++ rest) =
      bearerScheme ++ substitute matchKeyValueSecret (some ' ') 0 rest := by
  have first : substitute matchKeyValueSecret previous 0 (bearerScheme ++ rest) =
      ' ' :: substitute matchKeyValueSecret (some ' ') 0 ("Bearer ".toList ++ rest) :=
    substitute_unmatched fun _ => rfl
  have second : substitute matchKeyValueSecret (some ' ') 0 ("Bearer ".toList ++ rest) =
      'B' :: substitute matchKeyValueSecret (some 'B') 0 ("earer ".toList ++ rest) :=
    substitute_unmatched fun _ => rfl
  have letters : substitute matchKeyValueSecret (some 'B') 0 ("earer ".toList ++ rest) =
      "earer ".toList ++ substitute matchKeyValueSecret (some ' ') 0 rest := by
    rfl
  rw [first, second, letters]
  rfl

/-- The header of a bearer token holds no key of a secret with a key. -/
theorem keyValue_prefix (previous : Option Char) (rest : List Char) :
    substitute matchKeyValueSecret previous 0 (bearerPrefix ++ rest) =
      bearerPrefix ++ substitute matchKeyValueSecret (some ' ') 0 rest := by
  have first : substitute matchKeyValueSecret previous 0 (bearerPrefix ++ rest) =
      'A' :: substitute matchKeyValueSecret (some 'A') 0 ("uthorization: Bearer ".toList ++ rest) :=
    substitute_unmatched fun _ => rfl
  have letters :
      substitute matchKeyValueSecret (some 'A') 0 ("uthorization: Bearer ".toList ++ rest) =
        "uthorization: Bearer ".toList ++ substitute matchKeyValueSecret (some ' ') 0 rest := by
    rfl
  rw [first, letters]
  rfl

/-- What remains of the header starts no bearer token. -/
theorem bearer_scheme (previous : Option Char) (rest : List Char) :
    substitute matchBearerSecret previous 0 (bearerScheme ++ rest) =
      bearerScheme ++ substitute matchBearerSecret (some ' ') 0 rest := by
  have first : substitute matchBearerSecret previous 0 (bearerScheme ++ rest) =
      ' ' :: substitute matchBearerSecret (some ' ') 0 ("Bearer ".toList ++ rest) :=
    substitute_unmatched fun _ => rfl
  have letters : substitute matchBearerSecret (some ' ') 0 ("Bearer ".toList ++ rest) =
      "Bearer ".toList ++ substitute matchBearerSecret (some ' ') 0 rest := by
    rfl
  rw [first, letters]
  rfl

/-- A text spells a word exactly when the word is matched and nothing is left. -/
theorem spells_iff {word text : List Char} : Spells word text ↔ matchWord word text = some
    (text, []) := by
  rw [matchWord_eq_some_iff, List.append_nil]
  exact (and_iff_left rfl).symm

/-- The header's name and its sign are separated by nothing. -/
theorem separated_authorization : Separated "Authorization".toList [] ':' where
  keyChars := List.all_eq_true.mp (by decide)
  spaces := fun _ absent => (List.not_mem_nil absent).elim
  isSign := .inl rfl

/-- The header with its scheme comes before a bearer token. -/
theorem isBearerHead_prefix : IsBearerHead bearerPrefix := by
  refine ⟨"Authorization".toList, [], [' '], "Bearer".toList, [' '], spells_iff.mpr rfl,
    separated_authorization, List.all_eq_true.mp (by decide), spells_iff.mpr rfl,
    List.all_eq_true.mp (by decide), by decide, rfl⟩

/-- No key-value secret starts before the header and goes on in it. -/
theorem prefix_not_crosses {start later first rest : List Char}
    (isHead : IsKeyHead (start ++ later))
    (goesOn : later ≠ []) (split : bearerPrefix ++ rest = later ++ first) : False := by
  obtain ⟨word, member, key, before, sign, after, spells, separated, spaces, whole⟩ := isHead
  have keys : (later ++ first).takeWhile isKeyChar = "Authorization".toList := by
    rw [← split]
    exact separated_authorization.takeWhile_key (" Bearer ".toList ++ rest)
  have lengths : ∀ word ∈ secretKeys, word.length ≤ 12 := by decide
  have short := lengths word member
  rw [← spells.length_eq] at short
  rcases List.append_eq_append_iff.mp whole with ⟨last, rfl, rfl⟩ | ⟨middle, _, within⟩
  · rw [List.append_assoc, List.append_assoc, List.cons_append,
      separated.suffix.takeWhile_key] at keys
    rw [keys, List.length_append] at short
    have long : "Authorization".toList.length = 13 := rfl
    omega
  · have none : ∀ char ∈ later, isKeyChar char = false := fun char inside =>
      separated.not_key spaces char (by rw [within]; exact List.mem_append_right middle inside)
    rw [takeWhile_key_of_not_key none goesOn] at keys
    cases keys

/-- A character of the replaced text is one of the text, or of the marker. -/
theorem Replaced.mem {allowed : Option Char → Prop} {previous : Option Char}
    {before after : List Char}
    (replaced : Replaced allowed previous before after) :
    ∀ char ∈ after, char ∈ before ∨ char ∈ redactedMarker := by
  induction replaced with
  | nil => exact fun _ absent => (List.not_mem_nil absent).elim
  | keep first _ ih =>
      intro char member
      rcases List.mem_cons.mp member with rfl | later
      · exact .inl List.mem_cons_self
      · exact (ih char later).imp (List.mem_cons_of_mem _) id
  | mark _ _ _ _ _ ih =>
      intro char member
      rcases List.mem_append.mp member with marker | later
      · exact .inr marker
      · exact (ih char later).imp (List.mem_append_right _) id

/-- A text that leaves no value open keeps its last character. -/
theorem getLast?_substitute {pattern : List Char → Option SecretMatch} {IsHead : List Char → Prop}
    (values : ValuePattern pattern IsHead) (previous : Option Char) (text : List Char) :
    ¬ LeavesOpen pattern IsHead previous text →
      (substitute pattern previous 0 text).getLast? = text.getLast? := by
  induction previous, text using scan_induction values.spec with
  | nil => exact fun _ => rfl
  | matched previous char text found value rest boundary here split ih =>
      intro closed
      obtain ⟨last, result⟩ := substitute_matched boundary here split
      have isHead := (values.sound _ _ here).1
      have goesOn : rest ≠ [] := by
        rintro rfl
        have whole := split.text_eq
        rw [List.append_nil] at whole
        rw [whole] at closed
        exact closed (.here boundary isHead split.secret)
      have same := ih last fun leaves => closed (.matched boundary here split leaves)
      have present : substitute pattern last 0 rest ≠ [] := by
        intro empty
        rw [empty, List.getLast?_eq_some_getLast goesOn] at same
        cases same
      rw [result, split.text_eq, ← List.append_assoc, ← List.append_assoc,
        List.getLast?_append_of_ne_nil _ present, List.getLast?_append_of_ne_nil _ goesOn, same]
  | plain previous char text unmatched ih =>
      intro closed
      have same := ih fun leaves => closed (.plain unmatched leaves)
      rw [substitute_unmatched unmatched, List.getLast?_cons, List.getLast?_cons, same]

/-- What comes before a bearer token has more than twenty characters. -/
theorem IsBearerHead.long (isHead : IsBearerHead head) : 20 < head.length := by
  obtain ⟨key, before, after, scheme, gap, spells, _, _, schemed, _, wide, rfl⟩ := isHead
  have first : key.length = 13 := spells.length_eq
  have second : scheme.length = 6 := schemed.length_eq
  have third := List.length_pos_iff.mpr wide
  simp only [List.length_append, List.length_cons]
  omega

/-- What remains of the header behind a marker is no header. -/
theorem bearer_tail_of_marker {out : List Char} (previous : Option Char) (nonempty : value ≠ [])
    (secret : ∀ char ∈ value, isSecretChar char) :
    redactedMarker <:+ substitute matchBearerSecret previous 0
        (out ++ (redactedMarker ++ (bearerScheme ++ value))) ↔ redactedMarker <:+ value := by
  have split : out ++ (redactedMarker ++ (bearerScheme ++ value)) =
      ((out ++ (redactedMarker ++ " Bearer".toList)) ++ [' ']) ++ value := by
    have scheme : bearerScheme = " Bearer".toList ++ [' '] := rfl
    rw [scheme]
    simp only [List.append_assoc]
  rw [split]
  apply bearer_tail previous rfl nonempty secret
  intro before head same isHead
  have long := isHead.long
  have parts : (out ++ "[REDACTED".toList) ++ (']' :: bearerScheme) = before ++ head := by
    rw [← same]
    have marker : redactedMarker = "[REDACTED".toList ++ [']'] := by decide
    have scheme : bearerScheme = " Bearer".toList ++ [' '] := rfl
    rw [marker, scheme]
    simp only [List.append_assoc, List.cons_append, List.nil_append]
  rcases List.append_eq_append_iff.mp parts with ⟨middle, _, within⟩ | ⟨middle, _, rfl⟩
  · have lengths := congrArg List.length within
    have total : (']' :: bearerScheme).length = 9 := rfl
    rw [List.length_append, total] at lengths
    omega
  · exact (bearerPattern.unmarked _ isHead ']' (List.mem_append_right _ List.mem_cons_self)).2 rfl

/-- A bearer token is redacted unless an earlier value takes the name of its header, in either pass;
then its own text decides. -/
theorem redacted_bearer_iff (boundary : before.getLast?.any isWordChar = false)
    (nonempty : value ≠ [])
    (secret : ∀ char ∈ value, isSecretChar char) :
    redactedMarker <:+ redacted (before ++ (bearerPrefix ++ value)) ↔
      (LeavesOpen matchKeyValueSecret IsKeyHead none before ∨
          LeavesOpen matchBearerSecret IsBearerHead none
            (substitute matchKeyValueSecret none 0 before) →
        EndsMasked value) := by
  have space : (some ' ').any isWordChar = false := by decide
  have valued := keyValue_of_value space secret
  have starts : ∀ rest, StartsValue (bearerPrefix ++ rest) := fun rest =>
    ⟨'A', "uthorization: Bearer ".toList ++ rest, rfl, by decide⟩
  have taken : ∀ rest, (bearerPrefix ++ rest).dropWhile isSecretChar = bearerScheme ++ rest :=
    fun rest => rfl
  unfold redacted
  cases substitute_append keyValuePattern none before (starts value) with
  | opened out last leaves result =>
      rw [result, taken, keyValue_scheme]
      constructor
      · intro ends _
        by_contra shown
        have kept := (substitute_value keyValuePattern (some ' ') value secret).2
        rw [holdsMatch_iff space] at kept
        rw [kept fun holds => shown (.inr holds), bearer_tail_of_marker none nonempty
          secret] at ends
        exact shown (.inl ends)
      · intro masked
        have ends := valued.mpr (masked (.inl leaves))
        refine substitute_ends bearerPattern (ends.trans ?_)
        rw [← List.append_assoc, ← List.append_assoc]
        exact List.suffix_append _ _
  | crossed out start later masked rest last _ _ goesOn crossing _ _ _ split _ =>
      exact (prefix_not_crosses crossing goesOn split).elim
  | apart closed result =>
      rw [result, keyValue_prefix]
      -- The token after the first pass.
      have replaced := @substitute_replaced _ _ keyValuePattern (fun _ => True) (fun _ _ => trivial)
        (some ' ') value
      have hidden : ∀ char ∈ substitute matchKeyValueSecret (some ' ') 0 value, isSecretChar char :=
        fun char member => (replaced.mem char member).elim (secret char) marker_secret
      have present : substitute matchKeyValueSecret (some ' ') 0 value ≠ [] := by
        intro empty
        have masks := substitute_masked keyValuePattern.spec value (some ' ')
        rw [empty] at masks
        exact nonempty masks.eq_nil
      generalize substitute matchKeyValueSecret (some ' ') 0 value = masked at valued hidden present
      cases substitute_append bearerPattern none (substitute matchKeyValueSecret none 0 before)
        (starts masked) with
      | opened out last leaves passed =>
          have split : out ++ (redactedMarker ++ (bearerScheme ++ masked)) =
              ((out ++ (redactedMarker ++ " Bearer".toList)) ++ [' ']) ++ masked := by
            have scheme : bearerScheme = " Bearer".toList ++ [' '] := rfl
            rw [scheme]
            simp only [List.append_assoc]
          rw [passed, taken, bearer_scheme, bearer_value _ hidden, split,
            marker_suffix_iff (by decide),
            valued]
          exact ⟨fun masked _ => masked, fun masked => masked (.inr leaves)⟩
      | crossed out start later value' rest last shut _ goesOn crossing present' hidden' ends split
          passed =>
          have never : ¬ (LeavesOpen matchKeyValueSecret IsKeyHead none before ∨
              LeavesOpen matchBearerSecret IsBearerHead none
                (substitute matchKeyValueSecret none 0 before)) :=
            fun either => either.elim closed shut
          refine ⟨fun _ either => (never either).elim, fun _ => ?_⟩
          have same := bearerPattern.nested start later bearerPrefix _ _ crossing
              isBearerHead_prefix
            goesOn (startsValue_of_secret present' hidden' rest)
              (startsValue_of_value present hidden)
            split.symm
          rw [same] at split
          have whole := List.append_cancel_left split
          have ended : rest = [] := ends.eq_nil fun char member =>
            hidden char (by rw [whole]; exact List.mem_append_right value' member)
          rw [passed, ended]
          exact List.suffix_append _ _
      | apart shut passed =>
          have never : ¬ (LeavesOpen matchKeyValueSecret IsKeyHead none before ∨
              LeavesOpen matchBearerSecret IsBearerHead none
                (substitute matchKeyValueSecret none 0 before)) :=
            fun either => either.elim closed shut
          refine ⟨fun _ either => (never either).elim, fun _ => ?_⟩
          rw [Option.or_none, getLast?_substitute keyValuePattern none before closed] at passed
          rw [passed, substitute_head bearerPattern boundary isBearerHead_prefix present hidden,
            ← List.append_assoc]
          exact List.suffix_append _ _

/-- A secret at the end of a text is redacted unless the text before it ends inside a value that
then takes the key, or the name of the header, while white space keeps the secret out of it; and
then if the secret itself ends in the marker or holds a key with a value. -/
theorem redacts_secret_iff (boundary : before.getLast?.any isWordChar = false)
    (nonempty : value ≠ [])
    (secret : ∀ char ∈ value, isSecretChar char) :
    (∀ head, IsKeyHead head →
      (redactedMarker <:+ (redactText (String.ofList (before ++ (head ++ value)))).toList ↔
        (LeavesOpen matchKeyValueSecret IsKeyHead none before → (∃ char ∈ head, isSpaceChar char) →
          EndsMasked value))) ∧
      (redactedMarker <:+ (redactText (String.ofList (before ++ (bearerPrefix ++ value)))).toList ↔
        (LeavesOpen matchKeyValueSecret IsKeyHead none before ∨
            LeavesOpen matchBearerSecret IsBearerHead none
              (substitute matchKeyValueSecret none 0 before) →
          EndsMasked value)) := by
  refine ⟨fun head isHead => ?_, ?_⟩
  · rw [toList_redactText, String.toList_ofList]
    exact redacted_key_iff boundary isHead nonempty secret
  · rw [toList_redactText, String.toList_ofList]
    exact redacted_bearer_iff boundary nonempty secret

/-- The head of a spaced assignment. -/
theorem isKeyHead_spaced : IsKeyHead "password = ".toList :=
  ⟨"password".toList, by decide, "password".toList, [' '], '=', [' '], spells_iff.mpr rfl,
    ⟨List.all_eq_true.mp (by decide), List.all_eq_true.mp (by decide), .inr rfl⟩,
    List.all_eq_true.mp (by decide), rfl⟩

/-- A spaced assignment is redacted at the start of a text. -/
theorem redacts_first_secret : redactedMarker <:+
    (redactText (String.ofList ([] ++ ("password = ".toList ++ "hunter2".toList)))).toList :=
  ((redacts_secret_iff rfl (by decide) (List.all_eq_true.mp (by decide))).1 _ isKeyHead_spaced).mpr
  fun leaves =>
    (not_leavesOpen_nil keyValuePattern leaves).elim

/-- A key that an earlier value takes leaves the secret after it in the text. -/
theorem taken_key_leaves_secret :
    ¬ ∀ before head value : List Char, before.getLast?.any isWordChar = false → IsKeyHead head →
      value ≠ [] → (∀ char ∈ value, isSecretChar char) →
        redactedMarker <:+ (redactText (String.ofList (before ++ (head ++ value)))).toList := by
  intro reaches
  have ends := reaches "token=".toList "password = ".toList "hunter2".toList (by decide)
    isKeyHead_spaced (by decide) (List.all_eq_true.mp (by decide))
  have shown : ¬ redactedMarker <:+ (redactText (String.ofList
      ("token=".toList ++ ("password = ".toList ++ "hunter2".toList)))).toList := by decide
  exact shown ends

end Reach

end LarkBot
