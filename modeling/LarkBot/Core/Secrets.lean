import Mathlib.Data.List.Forall2
import Mathlib.Data.List.Infix
import LarkBot.Core.Masking
import LarkBot.Foundation.Spans

/-! # What precedes a secret

Both patterns of redaction match a head and a value. The head of a key-value secret is a key word
with a colon or an equals sign, the head of a bearer token the name of the header with its scheme.
What redaction leaves and what it reaches is shown for every pattern that matches a value after a
head (`LarkBot.ValuePattern`): a head has no bracket of the marker in it, none starts inside the
marker, and two heads that end before one value are one, or one ends the other.
-/

namespace LarkBot

open Foundation

section Words

/-- A character that a key word may have: it neither ends a value nor separates a key from one. -/
def isKeyChar (char : Char) : Bool :=
  isSecretChar char && char != ':' && char != '=' && char != '[' && char != ']'

/-- A character of a key word may be one of a value. -/
theorem isKeyChar_secret {char : Char} (key : isKeyChar char) : isSecretChar char := by
  unfold isKeyChar at key
  simp only [Bool.and_eq_true] at key
  exact key.1.1.1.1

/-- White space is no character of a key word. -/
theorem isKeyChar_not_space {char : Char} (space : isSpaceChar char) : isKeyChar char = false := by
  unfold isKeyChar isSecretChar
  rw [space]
  rfl

/-- A character of a key word is no white space. -/
theorem isSpaceChar_of_key {char : Char} (key : isKeyChar char) : isSpaceChar char = false := by
  by_contra space
  rw [isKeyChar_not_space (Bool.of_not_eq_false space)] at key
  cases key

/-- A character of a value is no white space. -/
theorem isSpaceChar_of_secret {char : Char} (secret : isSecretChar char) : isSpaceChar char =
    false := by
  unfold isSecretChar at secret
  simp only [Bool.and_eq_true, Bool.not_eq_true'] at secret
  exact secret.1.1

/-- The code points of the characters that a key word has none of. -/
theorem toNat_of_not_key {char : Char} (other : isKeyChar char = false) :
    char.toNat ≤ 0x20 ∨ char.toNat ∈ [0x2C, 0x3A, 0x3B, 0x3D, 0x5B, 0x5D, 0x85, 0xA0, 0x1680,
      0x2028, 0x2029, 0x202F, 0x205F, 0x3000] ∨ (0x2000 ≤ char.toNat ∧ char.toNat ≤ 0x200A) := by
  unfold isKeyChar isSecretChar at other
  simp only [Bool.and_eq_false_iff, Bool.not_eq_false', bne_eq_false_iff_eq] at other
  rcases other with ((((((space | rfl) | rfl) | rfl) | rfl) | rfl) | rfl)
  · unfold isSpaceChar at space
    simp only [Bool.or_eq_true, Bool.and_eq_true, decide_eq_true_eq, beq_iff_eq] at space
    simp only [List.mem_cons, List.not_mem_nil, or_false]
    omega
  all_goals exact .inr (.inl (by decide))

/-- What matches a letter of a key word in either case is such a character, too. -/
theorem isKeyChar_of_matches {letter char : Char} (plain : isKeyChar letter)
    (spelled : matchesIgnoreCase letter char) : isKeyChar char := by
  by_contra other
  have codes := toNat_of_not_key (Bool.of_not_eq_true other)
  simp only [List.mem_cons, List.not_mem_nil, or_false] at codes
  unfold matchesIgnoreCase Char.toLower at spelled
  simp only [Bool.or_eq_true, Bool.and_eq_true, beq_iff_eq] at spelled
  rcases spelled with ((lower | ⟨_, foreign⟩) | ⟨_, foreign⟩) | ⟨_, foreign⟩
  · split at lower
    next upper =>
      have first : 65 ≤ char.toNat := upper.1
      have last : char.toNat ≤ 90 := upper.2
      omega
    next =>
      rw [lower] at other
      exact other plain
  all_goals omega

/-- The text spells the word, in either case. -/
def Spells (word text : List Char) : Prop :=
  List.Forall₂ (fun letter char => matchesIgnoreCase letter char = true) word text

/-- A word is matched at the start of a text exactly when the text begins by spelling it. -/
theorem matchWord_eq_some_iff {word text spelled rest : List Char} :
    matchWord word text = some (spelled, rest) ↔ Spells word spelled ∧ text = spelled ++ rest := by
  constructor
  · intro found
    refine ⟨?_, matchWord_append found⟩
    induction word generalizing text spelled with
    | nil =>
        cases found
        exact .nil
    | cons letter word ih =>
        cases text with
        | nil => cases found
        | cons char text =>
            unfold matchWord at found
            split at found
            next same =>
              obtain ⟨⟨tail, remaining⟩, inside, whole⟩ := Option.map_eq_some_iff.mp found
              cases whole
              exact .cons same (ih inside)
            next => cases found
  · rintro ⟨spells, rfl⟩
    induction spells with
    | nil => rfl
    | cons same _ ih =>
        rw [List.cons_append, matchWord, if_pos same, ih]
        rfl

/-- A text that spells a word is as long as the word. -/
theorem Spells.length_eq {word text : List Char} (spells : Spells word text) :
    text.length = word.length :=
  (List.Forall₂.length_eq spells).symm

/-- A text that spells a word of key characters has none but such characters. -/
theorem Spells.keyChars {word text : List Char} (spells : Spells word text)
    (plain : ∀ letter ∈ word, isKeyChar letter) : ∀ char ∈ text, isKeyChar char := by
  induction spells with
  | nil => exact fun _ absent => (List.not_mem_nil absent).elim
  | cons same _ ih =>
      intro char member
      rcases List.mem_cons.mp member with rfl | member
      · exact isKeyChar_of_matches (plain _ List.mem_cons_self) same
      · exact ih (fun letter later => plain letter (List.mem_cons_of_mem _ later)) char member

end Words

section Heads

/-- A value starts here. -/
def StartsValue (text : List Char) : Prop := ∃ char rest, text = char :: rest ∧ isSecretChar char

/-- A key and the sign after it, with white space between them. -/
structure Separated (key before : List Char) (sign : Char) : Prop where
  keyChars : ∀ char ∈ key, isKeyChar char
  spaces : ∀ char ∈ before, isSpaceChar char
  isSign : sign = ':' ∨ sign = '='

/-- What comes before the value of a key-value secret. -/
def IsKeyHead (head : List Char) : Prop :=
  ∃ word ∈ secretKeys, ∃ key before sign after, Spells word key ∧ Separated key before sign ∧
    (∀ char ∈ after, isSpaceChar char) ∧ head = key ++ (before ++ sign :: after)

/-- What comes before a bearer token. -/
def IsBearerHead (head : List Char) : Prop :=
  ∃ key before after scheme gap, Spells "authorization".toList key ∧ Separated key before ':' ∧
    (∀ char ∈ after, isSpaceChar char) ∧ Spells "bearer".toList scheme ∧
    (∀ char ∈ gap, isSpaceChar char) ∧ gap ≠ [] ∧
    head = key ++ (before ++ ':' :: (after ++ (scheme ++ gap)))

/-- The white space before a sign stops at the sign. -/
theorem Separated.stopsAt_sign {key before : List Char} {sign : Char}
    (separated : Separated key before sign) (rest : List Char) :
    StopsAt isSpaceChar (sign :: rest) := by
  apply stopsAt_cons
  rcases separated.isSign with rfl | rfl <;> rfl

/-- A key stops at the white space or the sign after it. -/
theorem Separated.stopsAt_spaces {key before : List Char} {sign : Char}
    (separated : Separated key before sign) (rest : List Char) :
    StopsAt isKeyChar (before ++ sign :: rest) := by
  cases before with
  | nil =>
      apply stopsAt_cons
      rcases separated.isSign with rfl | rfl <;> rfl
  | cons space before =>
      exact stopsAt_cons (isKeyChar_not_space (separated.spaces space List.mem_cons_self))

/-- A text tells its key, its sign and the white space between them. -/
theorem Separated.unique {key key' before before' rest rest' : List Char} {sign sign' : Char}
    (one : Separated key before sign) (another : Separated key' before' sign')
    (same : key ++ (before ++ sign :: rest) = key' ++ (before' ++ sign' :: rest')) :
    key = key' ∧ before = before' ∧ sign = sign' ∧ rest = rest' := by
  have keys := congrArg (List.takeWhile isKeyChar) same
  rw [takeWhile_append_of_all one.keyChars (one.stopsAt_spaces rest),
    takeWhile_append_of_all another.keyChars (another.stopsAt_spaces rest')] at keys
  subst keys
  have later := List.append_cancel_left same
  have spaces := congrArg (List.takeWhile isSpaceChar) later
  rw [takeWhile_append_of_all one.spaces (one.stopsAt_sign rest),
    takeWhile_append_of_all another.spaces (another.stopsAt_sign rest')] at spaces
  subst spaces
  obtain ⟨rfl, rfl⟩ := List.cons.inj (List.append_cancel_left later)
  exact ⟨rfl, rfl, rfl, rfl⟩

/-- White space before what is no white space is told from it. -/
theorem spaces_unique {spaces spaces' rest rest' : List Char}
    (all : ∀ char ∈ spaces, isSpaceChar char) (all' : ∀ char ∈ spaces', isSpaceChar char)
    (stops : StopsAt isSpaceChar rest) (stops' : StopsAt isSpaceChar rest')
    (same : spaces ++ rest = spaces' ++ rest') : spaces = spaces' ∧ rest = rest' := by
  have equal := congrArg (List.takeWhile isSpaceChar) same
  rw [takeWhile_append_of_all all stops, takeWhile_append_of_all all' stops'] at equal
  subst equal
  exact ⟨rfl, List.append_cancel_left same⟩

/-- White space stops where a value starts. -/
theorem StartsValue.stopsAt {text : List Char} (starts : StartsValue text) :
    StopsAt isSpaceChar text := by
  obtain ⟨char, rest, rfl, secret⟩ := starts
  exact stopsAt_cons (isSpaceChar_of_secret secret)

/-- The letters of the words in both patterns. -/
theorem bearer_keyChars : ∀ letter ∈ "bearer".toList, isKeyChar letter :=
  List.all_eq_true.mp (by decide)

/-- The letters of the header's name may all stand in a key. -/
theorem authorization_keyChars : ∀ letter ∈ "authorization".toList, isKeyChar letter :=
  List.all_eq_true.mp (by decide)

/-- The letters of every key word may stand in a key. -/
theorem secretKeys_keyChars {word : List Char} (member : word ∈ secretKeys) :
    ∀ letter ∈ word, isKeyChar letter := by
  have every : ∀ word ∈ secretKeys, word.all isKeyChar = true := by decide
  exact List.all_eq_true.mp (every word member)

/-- The key is what is read up to the first character that no key has. -/
theorem Separated.takeWhile_key {key before : List Char} {sign : Char}
    (separated : Separated key before sign) (rest : List Char) :
    (key ++ (before ++ sign :: rest)).takeWhile isKeyChar = key :=
  takeWhile_append_of_all separated.keyChars (separated.stopsAt_spaces rest)

/-- The end of a key is a key as far as its characters go. -/
theorem Separated.suffix {start key before : List Char} {sign : Char}
    (separated : Separated (start ++ key) before sign) : Separated key before sign :=
  ⟨fun char member => separated.keyChars char (List.mem_append_right start member),
    separated.spaces, separated.isSign⟩

/-- Between a key and its value no character belongs to a key. -/
theorem Separated.not_key {key before rest : List Char} {sign : Char}
    (separated : Separated key before sign) (spaces : ∀ char ∈ rest, isSpaceChar char) :
    ∀ char ∈ before ++ sign :: rest, isKeyChar char = false := by
  intro char member
  rcases List.mem_append.mp member with early | later
  · exact isKeyChar_not_space (separated.spaces char early)
  · rcases List.mem_cons.mp later with rfl | last
    · rcases separated.isSign with rfl | rfl <;> rfl
    · exact isKeyChar_not_space (spaces char last)

/-- Nothing is read as a key where no key character stands. -/
theorem takeWhile_key_of_not_key {text : List Char} (none : ∀ char ∈ text, isKeyChar char = false)
    (nonempty : text ≠ []) (rest : List Char) : (text ++ rest).takeWhile isKeyChar = [] := by
  obtain ⟨char, tail, rfl⟩ := List.exists_cons_of_ne_nil nonempty
  rw [List.cons_append, List.takeWhile_cons, none char List.mem_cons_self]
  rfl

/-- A text that spells a key word is not empty. -/
theorem secretKeys_ne_nil {word key : List Char} (member : word ∈ secretKeys)
    (spells : Spells word key) : key ≠ [] := by
  have every : ∀ word ∈ secretKeys, 0 < word.length := by decide
  have positive := every word member
  rw [← spells.length_eq] at positive
  exact List.length_pos_iff.mp positive

/-- White space stops where a word is spelled. -/
theorem Spells.stopsAt_spaces {word text : List Char} (spells : Spells word text)
    (plain : ∀ letter ∈ word, isKeyChar letter) (nonempty : word ≠ []) (rest : List Char) :
    StopsAt isSpaceChar (text ++ rest) := by
  cases spells with
  | nil => exact (nonempty rfl).elim
  | cons same _ =>
      exact stopsAt_cons (isSpaceChar_of_key
        (isKeyChar_of_matches (plain _ List.mem_cons_self) same))

/-- Where a head ends in a head before one value, the end is the head. -/
theorem IsKeyHead.nested {start later head first second : List Char}
    (longer : IsKeyHead (start ++ later)) (isHead : IsKeyHead head) (nonempty : later ≠ [])
    (value : StartsValue first) (also : StartsValue second)
    (same : later ++ first = head ++ second) :
    later = head := by
  obtain ⟨_, _, key, before, sign, after, _, separated, spaces, whole⟩ := longer
  obtain ⟨word, member, key', before', sign', after', spells, separated', spaces', rfl⟩ := isHead
  rw [List.append_assoc, List.append_assoc, List.cons_append] at same
  rcases List.append_eq_append_iff.mp whole with ⟨rest, rfl, rfl⟩ | ⟨rest, rfl, within⟩
  · rw [List.append_assoc, List.append_assoc, List.cons_append] at same
    obtain ⟨rfl, rfl, rfl, remaining⟩ := separated.suffix.unique separated' same
    obtain ⟨rfl, _⟩ := spaces_unique spaces spaces' value.stopsAt also.stopsAt remaining
    rfl
  · have none : ∀ char ∈ later, isKeyChar char = false := fun char inside =>
      separated.not_key spaces char (by rw [within]; exact List.mem_append_right rest inside)
    have keys := separated'.takeWhile_key (after' ++ second)
    rw [← same, takeWhile_key_of_not_key none nonempty] at keys
    exact (secretKeys_ne_nil member spells keys.symm).elim

/-- Where the head of a bearer token ends in one before the token, they are the same. -/
theorem IsBearerHead.nested {start later head first second : List Char}
    (longer : IsBearerHead (start ++ later)) (isHead : IsBearerHead head) (nonempty : later ≠ [])
    (value : StartsValue first) (also : StartsValue second)
    (same : later ++ first = head ++ second) :
    later = head := by
  obtain ⟨key, before, after, scheme, gap, _, separated, spaces, schemed, gapped, wide, whole⟩ :=
    longer
  obtain ⟨key', before', after', scheme', gap', spells, separated', spaces', schemed', gapped',
    wide',
    rfl⟩ := isHead
  have plain := bearer_keyChars
  -- A scheme ends where its gap starts.
  have apart : ∀ gap : List Char, (∀ char ∈ gap, isSpaceChar char) → gap ≠ [] → ∀ rest,
      StopsAt isKeyChar (gap ++ rest) := by
    intro gap gapped wide rest
    obtain ⟨space, gap, rfl⟩ := List.exists_cons_of_ne_nil wide
    exact stopsAt_cons (isKeyChar_not_space (gapped space List.mem_cons_self))
  simp only [List.append_assoc, List.cons_append] at same
  have keys := separated'.takeWhile_key (after' ++ (scheme' ++ (gap' ++ second)))
  rw [← same] at keys
  have long := spells.length_eq
  rcases List.append_eq_append_iff.mp whole with ⟨rest, rfl, rfl⟩ | ⟨rest, rfl, within⟩
  · simp only [List.append_assoc, List.cons_append] at same
    obtain ⟨rfl, rfl, _, remaining⟩ := separated.suffix.unique separated' same
    obtain ⟨rfl, schemes⟩ :=
      spaces_unique spaces spaces' (schemed.stopsAt_spaces plain (by decide) _)
      (schemed'.stopsAt_spaces plain (by decide) _) remaining
    have equal := congrArg (List.takeWhile isKeyChar) schemes
    rw [takeWhile_append_of_all (schemed.keyChars plain) (apart gap gapped wide first),
      takeWhile_append_of_all (schemed'.keyChars plain) (apart gap' gapped' wide' second)] at equal
    subst equal
    obtain ⟨rfl, _⟩ := spaces_unique gapped gapped' value.stopsAt also.stopsAt
      (List.append_cancel_left schemes)
    rfl
  · exfalso
    have letters : key'.length = 13 := long
    have unlettered : (∀ char ∈ later, isKeyChar char = false) → False := by
      intro none
      rw [takeWhile_key_of_not_key none nonempty] at keys
      rw [← keys] at letters
      cases letters
    have short : ∀ last, later = last ++ gap → (∀ char ∈ last, isKeyChar char) → last.length ≤ 6 →
        False := by
      rintro last rfl lettered few
      rw [List.append_assoc, takeWhile_append_of_all lettered (apart gap gapped wide first)] at keys
      rw [← keys] at letters
      omega
    have schemeLength : scheme.length = 6 := schemed.length_eq
    have split : (before ++ ':' :: after) ++ (scheme ++ gap) = rest ++ later := by
      rw [← within, List.append_assoc, List.cons_append]
    have outside := separated.not_key spaces
    rcases List.append_eq_append_iff.mp split with ⟨middle, rfl, ending⟩ | ⟨middle, signs, rfl⟩
    · rcases List.append_eq_append_iff.mp ending with ⟨last, rfl, rfl⟩ | ⟨last, rfl, rfl⟩
      · exact unlettered fun char member =>
          isKeyChar_not_space (gapped char (List.mem_append_right last member))
      · refine short last rfl (fun char member => ?_) ?_
        · exact schemed.keyChars plain char (List.mem_append_right middle member)
        · rw [List.length_append] at schemeLength
          omega
    · by_cases empty : middle = []
      · subst empty
        exact short scheme rfl (schemed.keyChars plain) schemeLength.le
      · have none : ∀ char ∈ middle, isKeyChar char = false := fun char member =>
          outside char (by rw [signs]; exact List.mem_append_right rest member)
        rw [List.append_assoc, takeWhile_key_of_not_key none empty] at keys
        rw [← keys] at letters
        cases letters

end Heads

section Patterns

/-- The pattern matches a value after a head. -/
structure ValuePattern (pattern : List Char → Option SecretMatch) (IsHead : List Char → Prop) :
    Prop where
  sound : ∀ text found, pattern text = some found →
    IsHead found.kept ∧ ∃ value rest, found.At text value rest
  finds : ∀ head rest, IsHead head → StartsValue rest → (pattern (head ++ rest)).isSome
  starts : ∀ head, IsHead head → ∃ char rest, head = char :: rest ∧ isKeyChar char
  unmarked : ∀ head, IsHead head → ∀ char ∈ head, char ≠ '[' ∧ char ≠ ']'
  apart : ∀ piece, piece <:+ redactedMarker → piece ≠ [] → ∀ rest, pattern (piece ++ rest) = none
  nested : ∀ start later head first second, IsHead (start ++ later) → IsHead head → later ≠ [] →
    StartsValue first → StartsValue second → later ++ first = head ++ second → later = head

/-- A value is matched wherever one starts. -/
theorem matchValue_isSome {kept rest : List Char} (starts : StartsValue rest) :
    (matchValue kept rest).isSome := by
  obtain ⟨char, rest, rfl, secret⟩ := starts
  unfold matchValue
  rw [spanClass_eq, List.takeWhile_cons, if_pos secret]
  rfl

/-- What is kept before a value is what was read before it. -/
theorem matchValue_kept {kept text : List Char} {found : SecretMatch}
    (matched : matchValue kept text = some found) : found.kept = kept := by
  unfold matchValue at matched
  split at matched
  next => cases matched
  next =>
    cases matched
    rfl

/-- What is read as white space is white space. -/
theorem takeWhile_spaces (text : List Char) : ∀ char ∈ text.takeWhile isSpaceChar,
    isSpaceChar char :=
  fun _ member => List.mem_takeWhile_imp member

/-- What is kept before a value is a key, white space, a sign and white space. -/
theorem matchSeparated_kept {key text : List Char} {found : SecretMatch}
    (keyed : ∀ char ∈ key, isKeyChar char) (matched : matchSeparated key text = some found) :
    ∃ before sign after, Separated key before sign ∧ (∀ char ∈ after, isSpaceChar char) ∧
      found.kept = key ++ (before ++ sign :: after) := by
  unfold matchSeparated at matched
  rw [spanClass_eq] at matched
  dsimp only at matched
  split at matched
  next sign tail _ =>
    rw [spanClass_eq] at matched
    dsimp only at matched
    split at matched
    next isSign =>
      simp only [Bool.or_eq_true, beq_iff_eq] at isSign
      refine ⟨text.takeWhile isSpaceChar, sign, tail.takeWhile isSpaceChar,
        ⟨keyed, takeWhile_spaces text, isSign⟩, takeWhile_spaces tail, ?_⟩
      rw [matchValue_kept matched]
      simp only [List.append_assoc, List.cons_append, List.nil_append]
    next => cases matched
  next => cases matched

/-- A value after a key, a sign and white space is matched. -/
theorem matchSeparated_isSome {key before after rest : List Char} {sign : Char}
    (separated : Separated key before sign) (spaces : ∀ char ∈ after, isSpaceChar char)
    (starts : StartsValue rest) :
    (matchSeparated key (before ++ sign :: (after ++ rest))).isSome := by
  have isSign : (sign == ':' || sign == '=') = true := by
    simp only [Bool.or_eq_true, beq_iff_eq]
    exact separated.isSign
  unfold matchSeparated
  rw [spanClass_eq, takeWhile_append_of_all separated.spaces (separated.stopsAt_sign _),
    dropWhile_append_of_all separated.spaces (separated.stopsAt_sign _)]
  dsimp only
  rw [if_pos isSign, spanClass_eq, takeWhile_append_of_all spaces starts.stopsAt,
    dropWhile_append_of_all spaces starts.stopsAt]
  exact matchValue_isSome starts

/-- Neither a key nor its sign has a square bracket. -/
theorem separated_unmarked {key before : List Char} {sign : Char}
    (separated : Separated key before sign) :
    ∀ char ∈ key ++ (before ++ [sign]), char ≠ '[' ∧ char ≠ ']' := by
  intro char member
  rcases List.mem_append.mp member with keyed | later
  · constructor <;> rintro rfl <;> exact absurd (separated.keyChars _ keyed) (by decide)
  · rcases List.mem_append.mp later with spaced | last
    · constructor <;> rintro rfl <;> exact absurd (separated.spaces _ spaced) (by decide)
    · rw [List.mem_singleton.mp last]
      rcases separated.isSign with rfl | rfl <;> decide

/-- White space has no square bracket. -/
theorem spaces_unmarked {spaces : List Char} (all : ∀ char ∈ spaces, isSpaceChar char) :
    ∀ char ∈ spaces, char ≠ '[' ∧ char ≠ ']' := by
  intro char member
  constructor <;> rintro rfl <;> exact absurd (all _ member) (by decide)

/-- No character of a key is a square bracket. -/
theorem keyChars_unmarked {key : List Char} (keyed : ∀ char ∈ key, isKeyChar char) :
    ∀ char ∈ key, char ≠ '[' ∧ char ≠ ']' := by
  intro char member
  constructor <;> rintro rfl <;> exact absurd (keyed _ member) (by decide)

/-- The nonempty ends of the marker. -/
theorem marker_pieces {piece : List Char} (suffix : piece <:+ redactedMarker)
    (nonempty : piece ≠ []) :
    piece ∈ ["[REDACTED]", "REDACTED]", "EDACTED]", "DACTED]", "ACTED]", "CTED]", "TED]", "ED]",
      "D]",
      "]"].map String.toList := by
  have known : redactedMarker.tails = ["[REDACTED]", "REDACTED]", "EDACTED]", "DACTED]", "ACTED]",
    "CTED]", "TED]", "ED]", "D]", "]", ""].map String.toList := by decide
  have member := (List.mem_tails piece redactedMarker).mpr suffix
  rw [known] at member
  simp only [List.map_cons, List.map_nil, List.mem_cons, List.not_mem_nil, or_false] at member ⊢
  rcases member with same | same | same | same | same | same | same | same | same | same | same
  case inr.inr.inr.inr.inr.inr.inr.inr.inr.inr => exact (nonempty same).elim
  all_goals simp only [same, true_or, or_true]

/-- No secret starts inside the marker of a redacted one. -/
theorem matchKeyValueSecret_marker (piece : List Char) (suffix : piece <:+ redactedMarker)
    (nonempty : piece ≠ []) (rest : List Char) : matchKeyValueSecret (piece ++ rest) = none := by
  have member := marker_pieces suffix nonempty
  simp only [List.map_cons, List.map_nil, List.mem_cons, List.not_mem_nil, or_false] at member
  rcases member with rfl | rfl | rfl | rfl | rfl | rfl | rfl | rfl | rfl | rfl
  all_goals rfl

/-- No bearer token starts inside the marker of a redacted one. -/
theorem matchBearerSecret_marker (piece : List Char) (suffix : piece <:+ redactedMarker)
    (nonempty : piece ≠ []) (rest : List Char) : matchBearerSecret (piece ++ rest) = none := by
  have member := marker_pieces suffix nonempty
  simp only [List.map_cons, List.map_nil, List.mem_cons, List.not_mem_nil, or_false] at member
  rcases member with rfl | rfl | rfl | rfl | rfl | rfl | rfl | rfl | rfl | rfl
  all_goals rfl

/-- The pattern of key-value secrets matches a value after a key, a sign and white space. -/
theorem keyValuePattern : ValuePattern matchKeyValueSecret IsKeyHead where
  sound := by
    intro text found matched
    refine ⟨?_, matchKeyValueSecret_at matched⟩
    obtain ⟨word, member, keyed⟩ := List.exists_of_findSome?_eq_some matched
    obtain ⟨⟨key, rest⟩, named, separated⟩ := Option.bind_eq_some_iff.mp keyed
    have spells := (matchWord_eq_some_iff.mp named).1
    obtain ⟨before, sign, after, apart, spaces, kept⟩ :=
      matchSeparated_kept (spells.keyChars (secretKeys_keyChars member)) separated
    exact ⟨word, member, key, before, sign, after, spells, apart, spaces, kept⟩
  finds := by
    rintro head rest ⟨word, member, key, before, sign, after, spells, apart, spaces, rfl⟩ starts
    unfold matchKeyValueSecret
    rw [List.findSome?_isSome_iff]
    refine ⟨word, member, ?_⟩
    have named : matchWord word (key ++ (before ++ sign :: after) ++ rest) =
        some (key, before ++ sign :: (after ++ rest)) := by
      rw [matchWord_eq_some_iff]
      refine ⟨spells, ?_⟩
      simp only [List.append_assoc, List.cons_append]
    rw [named]
    exact matchSeparated_isSome apart spaces starts
  starts := by
    rintro head ⟨word, member, key, before, sign, after, spells, apart, _, rfl⟩
    obtain ⟨char, key, rfl⟩ := List.exists_cons_of_ne_nil (secretKeys_ne_nil member spells)
    exact ⟨char, _, rfl, apart.keyChars char List.mem_cons_self⟩
  unmarked := by
    rintro head ⟨_, _, key, before, sign, after, _, apart, spaces, rfl⟩ char member
    have split : key ++ (before ++ sign :: after) = (key ++ (before ++ [sign])) ++ after := by
      simp only [List.append_assoc, List.cons_append, List.nil_append]
    rw [split] at member
    rcases List.mem_append.mp member with early | late
    · exact separated_unmarked apart char early
    · exact spaces_unmarked spaces char late
  apart := matchKeyValueSecret_marker
  nested := fun _ _ _ _ _ longer isHead nonempty value also same =>
    longer.nested isHead nonempty value also same

/-- The pattern of bearer tokens matches a value after the header, its scheme and white space. -/
theorem bearerPattern : ValuePattern matchBearerSecret IsBearerHead where
  sound := by
    intro text found matched
    refine ⟨?_, matchBearerSecret_at matched⟩
    obtain ⟨⟨key, afterKey⟩, named, bearer⟩ := Option.bind_eq_some_iff.mp matched
    have spells := (matchWord_eq_some_iff.mp named).1
    dsimp only at bearer
    rw [spanClass_eq] at bearer
    dsimp only at bearer
    split at bearer
    next tail _ =>
      rw [spanClass_eq] at bearer
      dsimp only at bearer
      obtain ⟨⟨scheme, afterScheme⟩, schemed, valued⟩ := Option.bind_eq_some_iff.mp bearer
      dsimp only at valued
      split at valued
      next => cases valued
      next gap rest nonempty split =>
        rw [spanClass_eq] at split
        obtain ⟨rfl, rfl⟩ := Prod.mk.inj split
        refine ⟨key, afterKey.takeWhile isSpaceChar, tail.takeWhile isSpaceChar, scheme, _, spells,
          ⟨spells.keyChars authorization_keyChars, takeWhile_spaces afterKey, .inl rfl⟩,
          takeWhile_spaces tail, (matchWord_eq_some_iff.mp schemed).1, takeWhile_spaces afterScheme,
          nonempty, ?_⟩
        rw [matchValue_kept valued]
        simp only [List.append_assoc, List.cons_append, List.nil_append]
    next => cases bearer
  finds := by
    rintro head rest ⟨key, before, after, scheme, gap, spells, apart, spaces, schemed, gapped, wide,
      rfl⟩
      starts
    have named : matchWord "authorization".toList
        (key ++ (before ++ ':' :: (after ++ (scheme ++ gap))) ++ rest) =
          some (key, before ++ ':' :: (after ++ (scheme ++ (gap ++ rest)))) := by
      rw [matchWord_eq_some_iff]
      refine ⟨spells, ?_⟩
      simp only [List.append_assoc, List.cons_append]
    have schemeNamed : matchWord "bearer".toList (scheme ++ (gap ++ rest)) =
        some (scheme, gap ++ rest) :=
      matchWord_eq_some_iff.mpr ⟨schemed, rfl⟩
    have stops := schemed.stopsAt_spaces bearer_keyChars (by decide) (gap ++ rest)
    unfold matchBearerSecret
    rw [named]
    dsimp only [Option.bind_some]
    rw [spanClass_eq, takeWhile_append_of_all apart.spaces (apart.stopsAt_sign _),
      dropWhile_append_of_all apart.spaces (apart.stopsAt_sign _)]
    split
    next tail same =>
      obtain rfl := (List.cons.inj same).2
      rw [spanClass_eq, takeWhile_append_of_all spaces stops, dropWhile_append_of_all spaces stops]
      dsimp only
      rw [schemeNamed]
      dsimp only [Option.bind_some]
      rw [spanClass_eq, takeWhile_append_of_all gapped starts.stopsAt,
        dropWhile_append_of_all gapped starts.stopsAt]
      obtain ⟨space, gap, rfl⟩ := List.exists_cons_of_ne_nil wide
      exact matchValue_isSome starts
    next other => exact (other _ rfl).elim
  starts := by
    rintro head ⟨key, before, after, scheme, gap, spells, apart, _, _, _, _, rfl⟩
    cases spells with
    | cons same _ => exact ⟨_, _, rfl, apart.keyChars _ List.mem_cons_self⟩
  unmarked := by
    rintro head ⟨key, before, after, scheme, gap, _, apart, spaces, schemed, gapped, _, rfl⟩ char
      member
    have split : key ++ (before ++ ':' :: (after ++ (scheme ++ gap))) =
        (key ++ (before ++ [':'])) ++ (after ++ (scheme ++ gap)) := by
      simp only [List.append_assoc, List.cons_append, List.nil_append]
    rw [split] at member
    rcases List.mem_append.mp member with early | late
    · exact separated_unmarked apart char early
    · rcases List.mem_append.mp late with spaced | late
      · exact spaces_unmarked spaces char spaced
      · rcases List.mem_append.mp late with named | last
        · exact keyChars_unmarked (schemed.keyChars bearer_keyChars) char named
        · exact spaces_unmarked gapped char last
  apart := matchBearerSecret_marker
  nested := fun _ _ _ _ _ longer isHead nonempty value also same =>
    longer.nested isHead nonempty value also same

end Patterns

end LarkBot
