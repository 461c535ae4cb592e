import Mathlib.Data.List.Infix
import LarkBot.Core.Masking
import LarkBot.Lark.Mentions

/-! # At-tags

What the pattern of at-tags matches (`LarkBot.matchAtTag_iff`). A tag has no bracket between its
own two, so tags never overlap, and escaping may be done apart before an opening and after a
closing bracket. Escaping leaves a tag exactly where the text nests tags
(`LarkBot.containsAtTag_escapeLarkAtTags`): the escaped inner tag reads like an attribute of the
outer one.
-/

namespace LarkBot

open Foundation

section Pattern

def Bracketless (text : List Char) : Prop := '<' ∉ text ∧ '>' ∉ text

/-- `/?at`. -/
def TagStart (start : List Char) : Prop :=
  ∃ slash first second, start = slash ++ [first, second] ∧ (slash = [] ∨ slash = ['/']) ∧
    matchesIgnoreCase 'a' first ∧ matchesIgnoreCase 't' second

/-- A text that may follow `at`: nothing, or something after white space. -/
def StartsSpaced (text : List Char) : Prop := text.head?.all isSpaceChar

/-- `/?at(?:\s+[^<>]*?)?\s*`. -/
def TagBody (inside : List Char) : Prop :=
  ∃ start attributes, inside = start ++ attributes ∧ TagStart start ∧ StartsSpaced attributes ∧
    Bracketless attributes

/-- A text that `_LARK_AT_TAG_RE` matches whole. -/
def IsAtTag (tag : List Char) : Prop := ∃ inside, TagBody inside ∧ tag = '<' :: (inside ++ ['>'])

/-- A part of the text matches `_LARK_AT_TAG_RE`. -/
def ContainsAtTag (text : List Char) : Prop := ∃ tag, IsAtTag tag ∧ tag <:+: text

/-- Two texts without brackets form one. -/
theorem Bracketless.append {first second : List Char} (before : Bracketless first)
    (after : Bracketless second) : Bracketless (first ++ second) :=
  ⟨List.not_mem_append before.1 after.1, List.not_mem_append before.2 after.2⟩

/-- A character that matches neither letter of `at` matches no letter of a tag's start. -/
theorem tagLetters_unlike {char : Char}
    (unlike : ['a', 't'].all (fun sign => matchesIgnoreCase sign char == false) = true) :
    ∀ sign ∈ ['a', 't'], matchesIgnoreCase sign char = false := fun sign member =>
  beq_iff_eq.mp (List.all_eq_true.mp unlike sign member)

/-- The start of a tag has no bracket. -/
theorem TagStart.bracketless {start : List Char} (starts : TagStart start) : Bracketless start := by
  obtain ⟨slash, first, second, rfl, slashed, letter, other⟩ := starts
  have opening : ∀ sign ∈ ['a', 't'], matchesIgnoreCase sign '<' = false :=
    tagLetters_unlike (by decide)
  have closing : ∀ sign ∈ ['a', 't'], matchesIgnoreCase sign '>' = false :=
    tagLetters_unlike (by decide)
  have plain : Bracketless slash := by
    rcases slashed with rfl | rfl
    · exact ⟨List.not_mem_nil, List.not_mem_nil⟩
    · exact ⟨by decide, by decide⟩
  refine plain.append ⟨?_, ?_⟩
  · intro member
    simp only [List.mem_cons, List.not_mem_nil, or_false] at member
    rcases member with rfl | rfl
    · rw [opening 'a' (by decide)] at letter
      cases letter
    · rw [opening 't' (by decide)] at other
      cases other
  · intro member
    simp only [List.mem_cons, List.not_mem_nil, or_false] at member
    rcases member with rfl | rfl
    · rw [closing 'a' (by decide)] at letter
      cases letter
    · rw [closing 't' (by decide)] at other
      cases other

/-- What stands between the brackets of a tag has none itself. -/
theorem TagBody.bracketless {inside : List Char} (body : TagBody inside) : Bracketless inside := by
  obtain ⟨start, attributes, rfl, starts, _, plain⟩ := body
  exact starts.bracketless.append plain

/-- A tag is never empty. -/
theorem IsAtTag.ne_nil {tag : List Char} (tagged : IsAtTag tag) : tag ≠ [] := by
  obtain ⟨inside, _, rfl⟩ := tagged
  exact List.cons_ne_nil _ _

/-- A text that matches `at` starts with an a and a t, in either case. -/
theorem matchWord_at {name rest matched : List Char}
    (found : matchWord "at".toList name = some (matched, rest)) :
    ∃ first second, name = first :: second :: rest ∧ matchesIgnoreCase 'a' first ∧
      matchesIgnoreCase 't' second := by
  change matchWord ['a', 't'] name = _ at found
  rcases name with _ | ⟨first, _ | ⟨second, tail⟩⟩
  · cases found
  · unfold matchWord matchWord at found
    split at found <;> cases found
  · unfold matchWord matchWord matchWord at found
    split at found
    next letter =>
      split at found
      next other =>
        simp only [Option.map_some, Option.some.injEq, Prod.mk.injEq] at found
        exact ⟨first, second, by rw [found.2], letter, other⟩
      next => cases found
    next => cases found

/-- A text that starts with an a and a t, in either case, matches `at`. -/
theorem matchWord_at_of {first second : Char} {rest : List Char}
    (letter : matchesIgnoreCase 'a' first) (other : matchesIgnoreCase 't' second) :
    matchWord "at".toList (first :: second :: rest) = some ([first, second], rest) := by
  change matchWord ['a', 't'] (first :: second :: rest) = _
  unfold matchWord matchWord matchWord
  rw [if_pos letter, if_pos other]
  rfl

/-- A text is without brackets exactly when each of its characters is none. -/
theorem bracketless_iff {text : List Char} :
    Bracketless text ↔ ∀ char ∈ text, (char != '<' && char != '>') = true := by
  unfold Bracketless
  simp only [Bool.and_eq_true, bne_iff_ne, ne_eq]
  constructor
  · rintro ⟨opening, closing⟩ char member
    refine ⟨?_, ?_⟩ <;> rintro rfl
    · exact opening member
    · exact closing member
  · intro every
    exact ⟨fun member => (every _ member).1 rfl, fun member => (every _ member).2 rfl⟩

/-- What precedes the first bracket. -/
theorem takeWhile_bracketless {inside rest : List Char} (plain : Bracketless inside) :
    (inside ++ '>' :: rest).takeWhile (fun char => char != '<' && char != '>') = inside ∧
      (inside ++ '>' :: rest).dropWhile (fun char => char != '<' && char != '>') = '>' :: rest := by
  have every := bracketless_iff.mp plain
  rw [List.takeWhile_append_of_pos every, List.dropWhile_append_of_pos every]
  exact ⟨List.append_nil _, rfl⟩

/-- The pattern after its slash: how much of a tag is left. -/
def matchTagRest (name : List Char) : Option Nat :=
  (matchWord "at".toList name).bind fun (_, inside) =>
    let (attributes, closing) := spanClass (fun char => char != '<' && char != '>') inside
    if closing.head? = some '>' ∧ attributes.head?.all isSpaceChar then
      some (2 + attributes.length + 1)
    else none

/-- The pattern after its slash matches `at`, attributes without brackets, and the
bracket that closes. -/
theorem matchTagRest_sound {name : List Char} {length : Nat}
    (matched : matchTagRest name = some length) :
    ∃ first second attributes after, name = first :: second :: (attributes ++ '>' :: after) ∧
      matchesIgnoreCase 'a' first ∧ matchesIgnoreCase 't' second ∧ StartsSpaced attributes ∧
      Bracketless attributes ∧ length = attributes.length + 3 := by
  obtain ⟨⟨_, inside⟩, named, tagged⟩ := Option.bind_eq_some_iff.mp matched
  obtain ⟨first, second, rfl, letter, other⟩ := matchWord_at named
  dsimp only at tagged
  rw [spanClass_eq] at tagged
  dsimp only at tagged
  split at tagged
  next closed =>
    cases tagged
    have plain : Bracketless (inside.takeWhile fun char => char != '<' && char != '>') :=
      bracketless_iff.mpr fun char member =>
        List.mem_takeWhile_imp (p := fun char => char != '<' && char != '>') member
    obtain ⟨after, remains⟩ := List.head?_eq_some_iff.mp closed.1
    refine ⟨first, second, _, after, ?_, letter, other, closed.2, plain, by omega⟩
    rw [← remains, List.takeWhile_append_dropWhile]
  next => cases tagged

/-- The pattern after its slash matches every `at` with attributes, whatever comes after
the bracket. -/
theorem matchTagRest_complete {first second : Char} {attributes : List Char}
    (letter : matchesIgnoreCase 'a' first) (other : matchesIgnoreCase 't' second)
    (spaced : StartsSpaced attributes) (plain : Bracketless attributes) (after : List Char) :
    matchTagRest (first :: second :: (attributes ++ '>' :: after)) =
      some (attributes.length + 3) := by
  obtain ⟨taken, dropped⟩ := @takeWhile_bracketless attributes after plain
  unfold matchTagRest
  rw [matchWord_at_of letter other, Option.bind_some]
  dsimp only
  rw [spanClass_eq]
  dsimp only
  rw [taken, dropped, if_pos ⟨rfl, spaced⟩]
  congr 1
  omega

/-- After the opening bracket the pattern skips a slash. -/
theorem matchAtTag_slash (name : List Char) :
    matchAtTag ('<' :: '/' :: name) = (matchTagRest name).map fun length => length + 2 := by
  rw [matchAtTag, matchTagRest, List.head?_cons, if_pos rfl, List.tail_cons, Option.map_bind]
  dsimp only
  congr 1
  funext found
  dsimp only [Function.comp_apply]
  split
  · simp only [Option.map_some, Option.some.injEq]
    omega
  · rfl

/-- Without a slash the pattern goes on right after the opening bracket. -/
theorem matchAtTag_unslashed {rest : List Char} (unslashed : rest.head? ≠ some '/') :
    matchAtTag ('<' :: rest) = (matchTagRest rest).map fun length => length + 1 := by
  rw [matchAtTag, matchTagRest, if_neg unslashed, Option.map_bind]
  dsimp only
  congr 1
  funext found
  dsimp only [Function.comp_apply]
  split
  · simp only [Option.map_some, Option.some.injEq]
    omega
  · rfl

/-- The pattern matches nothing but tags. -/
theorem matchAtTag_sound {text : List Char} {length : Nat}
    (matched : matchAtTag text = some length) :
    ∃ tag rest, IsAtTag tag ∧ text = tag ++ rest ∧ length = tag.length := by
  obtain ⟨rest, rfl⟩ : ∃ rest, text = '<' :: rest := by
    unfold matchAtTag at matched
    split at matched
    · exact ⟨_, rfl⟩
    · cases matched
  by_cases slashed : rest.head? = some '/'
  · obtain ⟨name, rfl⟩ := List.head?_eq_some_iff.mp slashed
    rw [matchAtTag_slash] at matched
    obtain ⟨shorter, found, rfl⟩ := Option.map_eq_some_iff.mp matched
    obtain ⟨first, second, attributes, after, rfl, letter, other, spaced, plain, rfl⟩ :=
      matchTagRest_sound found
    have starts : TagStart ['/', first, second] :=
      ⟨['/'], first, second, rfl, .inr rfl, letter, other⟩
    refine ⟨_, after, ⟨_, ⟨_, attributes, rfl, starts, spaced, plain⟩, rfl⟩, ?_, ?_⟩
    · simp only [List.cons_append, List.append_assoc, List.nil_append]
    · simp only [List.length_cons, List.length_append, List.length_nil]
      omega
  · rw [matchAtTag_unslashed slashed] at matched
    obtain ⟨shorter, found, rfl⟩ := Option.map_eq_some_iff.mp matched
    obtain ⟨first, second, attributes, after, rfl, letter, other, spaced, plain, rfl⟩ :=
      matchTagRest_sound found
    have starts : TagStart [first, second] := ⟨[], first, second, rfl, .inl rfl, letter, other⟩
    refine ⟨_, after, ⟨_, ⟨_, attributes, rfl, starts, spaced, plain⟩, rfl⟩, ?_, ?_⟩
    · simp only [List.cons_append, List.append_assoc, List.nil_append]
    · simp only [List.length_cons, List.length_append, List.length_nil]
      omega

/-- The pattern matches a tag wherever it stands. -/
theorem matchAtTag_complete {tag : List Char} (tagged : IsAtTag tag) (rest : List Char) :
    matchAtTag (tag ++ rest) = some tag.length := by
  obtain ⟨_, ⟨_, attributes, rfl, ⟨slash, first, second, rfl, slashed, letter, other⟩, spaced,
    plain⟩, rfl⟩ := tagged
  have found := matchTagRest_complete letter other spaced plain rest
  rcases slashed with rfl | rfl
  · have unslashed : (first :: second :: (attributes ++ '>' :: rest)).head? ≠ some '/' := by
      intro same
      cases same
      exact absurd letter (by decide)
    simp only [List.nil_append, List.cons_append, List.append_assoc]
    rw [matchAtTag_unslashed unslashed, found]
    simp only [Option.map_some, List.length_cons, List.length_append, List.length_nil]
  · simp only [List.nil_append, List.cons_append, List.append_assoc]
    rw [matchAtTag_slash, found]
    simp only [Option.map_some, List.length_cons, List.length_append, List.length_nil]

/-- The pattern matches a text exactly when the text starts with a tag, and it matches
the tag whole. -/
theorem matchAtTag_iff {text : List Char} {length : Nat} :
    matchAtTag text = some length ↔
      ∃ tag rest, IsAtTag tag ∧ text = tag ++ rest ∧ length = tag.length := by
  constructor
  · exact matchAtTag_sound
  · rintro ⟨tag, rest, tagged, rfl, rfl⟩
    exact matchAtTag_complete tagged rest

/-- A text is a tag exactly when the pattern matches all of it. -/
theorem isAtTag_iff {tag : List Char} : IsAtTag tag ↔ matchAtTag tag = some tag.length := by
  constructor
  · intro tagged
    have matched := matchAtTag_complete tagged []
    rwa [List.append_nil] at matched
  · intro matched
    obtain ⟨part, rest, tagged, rfl, same⟩ := matchAtTag_sound matched
    rw [List.length_append, Nat.add_eq_left, List.length_eq_zero_iff] at same
    rwa [same, List.append_nil]

instance (tag : List Char) : Decidable (IsAtTag tag) := decidable_of_iff _ isAtTag_iff.symm

/-- A text contains a tag exactly when the pattern matches somewhere in it. -/
theorem containsAtTag_iff {text : List Char} :
    ContainsAtTag text ↔ ∃ suffix ∈ text.tails, (matchAtTag suffix).isSome := by
  constructor
  · rintro ⟨tag, tagged, before, after, rfl⟩
    refine ⟨tag ++ after, ?_, ?_⟩
    · rw [List.mem_tails, List.append_assoc]
      exact List.suffix_append before _
    · rw [matchAtTag_complete tagged after]
      rfl
  · rintro ⟨suffix, member, matched⟩
    obtain ⟨length, matched⟩ := Option.isSome_iff_exists.mp matched
    obtain ⟨tag, rest, tagged, rfl, _⟩ := matchAtTag_sound matched
    exact ⟨tag, tagged, (List.prefix_append tag rest).isInfix.trans
      ((List.mem_tails _ _).mp member).isInfix⟩

instance (text : List Char) : Decidable (ContainsAtTag text) :=
  decidable_of_iff _ containsAtTag_iff.symm

/-- Of a tag, nothing but its start opens. -/
theorem IsAtTag.opening {before after : List Char} (tagged : IsAtTag (before ++ '<' :: after)) :
    before = [] := by
  obtain ⟨inside, body, same⟩ := tagged
  cases before with
  | nil => rfl
  | cons char before =>
      have inner := (List.cons.inj same).2
      have member : '<' ∈ inside ++ ['>'] := inner ▸ List.mem_append_right _ List.mem_cons_self
      rcases List.mem_append.mp member with early | late
      · exact (body.bracketless.1 early).elim
      · exact absurd late (by decide)

/-- Of a tag, nothing but its end closes. -/
theorem IsAtTag.closing {before after : List Char} (tagged : IsAtTag (before ++ '>' :: after)) :
    after = [] := by
  obtain ⟨inside, body, same⟩ := tagged
  rw [← List.cons_append] at same
  rcases List.eq_nil_or_concat after with rfl | ⟨inner, last, rfl⟩
  · rfl
  · rw [List.concat_eq_append, ← List.cons_append, ← List.append_assoc] at same
    have early := (List.append_inj' same rfl).1
    have member : '>' ∈ '<' :: inside := early ▸ List.mem_append_right _ List.mem_cons_self
    rcases List.mem_cons.mp member with impossible | inner
    · cases impossible
    · exact (body.bracketless.2 inner).elim

/-- A tag starts with its opening bracket. -/
theorem IsAtTag.starts {tag : List Char} (tagged : IsAtTag tag) : ∃ rest, tag = '<' :: rest := by
  obtain ⟨inside, _, rfl⟩ := tagged
  exact ⟨_, rfl⟩

/-- A tag has a closing bracket. -/
theorem IsAtTag.ends {tag : List Char} (tagged : IsAtTag tag) : '>' ∈ tag := by
  obtain ⟨inside, _, rfl⟩ := tagged
  exact List.mem_cons_of_mem _ (List.mem_append_right _ List.mem_cons_self)

/-- A text is read tag by tag, and character by character where no tag starts. -/
theorem atTag_induction {motive : List Char → Prop} (nil : motive [])
    (tagged : ∀ tag rest, IsAtTag tag → motive rest → motive (tag ++ rest))
    (plain : ∀ char rest, matchAtTag (char :: rest) = none → motive rest → motive (char :: rest))
    (text : List Char) : motive text := by
  induction size : text.length using Nat.strongRecOn generalizing text with
  | _ size ih =>
      subst size
      cases text with
      | nil => exact nil
      | cons char rest =>
          cases matched : matchAtTag (char :: rest) with
          | none => exact plain char rest matched (ih _ (Nat.lt_succ_self _) rest rfl)
          | some length =>
              obtain ⟨tag, after, isTag, split, _⟩ := matchAtTag_sound matched
              rw [split]
              refine tagged tag after isTag (ih _ ?_ after rfl)
              rw [split, List.length_append]
              exact Nat.lt_add_of_pos_left (List.length_pos_iff.mpr isTag.ne_nil)

end Pattern

section Escaping

/-- A rewritten piece is a tag whose two brackets are replaced by their entities. -/
theorem escapesTag_iff {piece result : List Char} :
    EscapesTag piece result ↔ IsAtTag piece ∧ result = escapeBrackets piece := by
  constructor
  · rintro ⟨text, length, matched, rfl, rfl⟩
    obtain ⟨tag, rest, tagged, rfl, rfl⟩ := matchAtTag_sound matched
    rw [List.take_left]
    exact ⟨tagged, rfl⟩
  · rintro ⟨tagged, rfl⟩
    have matched := matchAtTag_complete tagged []
    rw [List.append_nil] at matched
    exact ⟨piece, piece.length, matched, (List.take_length).symm, rfl⟩

/-- There is nothing to escape in an empty text. -/
theorem escapeLarkAtTags_nil : escapeLarkAtTags [] = [] := rfl

/-- A tag at the start of a text is escaped, and the rest of the text after it. -/
theorem escapeLarkAtTags_tag {tag : List Char} (tagged : IsAtTag tag) (rest : List Char) :
    escapeLarkAtTags (tag ++ rest) = escapeBrackets tag ++ escapeLarkAtTags rest :=
  subMatches_of_match tagged.ne_nil (matchAtTag_complete tagged rest)

/-- A character where no tag starts stays as it is. -/
theorem escapeLarkAtTags_plain {char : Char} {rest : List Char}
    (unmatched : matchAtTag (char :: rest) = none) :
    escapeLarkAtTags (char :: rest) = char :: escapeLarkAtTags rest :=
  subMatches_of_none unmatched

/-- Neither a bracket's entity nor any other character is a bracket. -/
theorem bracketEntity_bracketless (char : Char) : Bracketless (bracketEntity char) := by
  unfold bracketEntity
  split
  · exact ⟨by decide, by decide⟩
  · split
    · exact ⟨by decide, by decide⟩
    next other closing =>
      refine ⟨fun member => other ?_, fun member => closing ?_⟩
      · exact (List.mem_singleton.mp member).symm
      · exact (List.mem_singleton.mp member).symm

/-- An escaped text has no bracket left. -/
theorem escapeBrackets_bracketless (text : List Char) : Bracketless (escapeBrackets text) := by
  unfold escapeBrackets
  induction text with
  | nil => exact ⟨List.not_mem_nil, List.not_mem_nil⟩
  | cons char rest ih =>
      rw [List.flatMap_cons]
      exact (bracketEntity_bracketless char).append ih

/-- A text is escaped character by character. -/
theorem escapeBrackets_cons (char : Char) (rest : List Char) :
    escapeBrackets (char :: rest) = bracketEntity char ++ escapeBrackets rest := rfl

/-- A character that is no bracket stands for itself. -/
theorem bracketEntity_of_ne {char : Char} (opening : char ≠ '<') (closing : char ≠ '>') :
    bracketEntity char = [char] := by
  unfold bracketEntity
  rw [if_neg opening, if_neg closing]

/-- A text without brackets is its own escape. -/
theorem escapeBrackets_of_bracketless {text : List Char} (plain : Bracketless text) :
    escapeBrackets text = text := by
  induction text with
  | nil => rfl
  | cons char rest ih =>
      have opening : char ≠ '<' := fun same => plain.1 (same ▸ List.mem_cons_self)
      have closing : char ≠ '>' := fun same => plain.2 (same ▸ List.mem_cons_self)
      rw [escapeBrackets_cons, bracketEntity_of_ne opening closing,
        ih ⟨fun member => plain.1 (List.mem_cons_of_mem _ member),
          fun member => plain.2 (List.mem_cons_of_mem _ member)⟩]
      rfl

/-- A tag starts before the cut between two texts and ends after it. -/
def Crosses (first second : List Char) : Prop :=
  ∃ start stop, start ≠ [] ∧ stop ≠ [] ∧ start <:+ first ∧ stop <+: second ∧
    IsAtTag (start ++ stop)

/-- A tag that crosses the cut still does so when more comes before it. -/
theorem Crosses.of_suffix {first whole second : List Char} (crosses : Crosses first second)
    (suffix : first <:+ whole) : Crosses whole second := by
  obtain ⟨start, stop, begun, ended, before, after, tagged⟩ := crosses
  exact ⟨start, stop, begun, ended, before.trans suffix, after, tagged⟩

/-- Texts that no tag crosses are escaped apart. -/
theorem escapeLarkAtTags_append {first second : List Char} (apart : ¬ Crosses first second) :
    escapeLarkAtTags (first ++ second) = escapeLarkAtTags first ++ escapeLarkAtTags second := by
  induction first using atTag_induction with
  | nil => rfl
  | tagged tag rest isTag ih =>
      rw [List.append_assoc, escapeLarkAtTags_tag isTag, escapeLarkAtTags_tag isTag,
        ih fun crosses => apart (crosses.of_suffix (List.suffix_append tag rest)),
          List.append_assoc]
  | plain char rest unmatched ih =>
      have later := ih fun crosses => apart (crosses.of_suffix (List.suffix_cons char rest))
      have still : matchAtTag (char :: (rest ++ second)) = none := by
        by_contra matched
        obtain ⟨length, matched⟩ := Option.ne_none_iff_exists'.mp matched
        obtain ⟨tag, after, isTag, split, _⟩ := matchAtTag_sound matched
        rw [← List.cons_append] at split
        rcases List.append_eq_append_iff.mp split with ⟨stop, rfl, ends⟩ | ⟨tail, inside, _⟩
        · by_cases ended : stop = []
          · subst ended
            rw [List.append_nil] at isTag
            have found := matchAtTag_complete isTag []
            rw [List.append_nil, unmatched] at found
            cases found
          · exact apart ⟨char :: rest, stop, List.cons_ne_nil _ _, ended, List.suffix_refl _,
              ⟨after, ends.symm⟩, isTag⟩
        · have found := matchAtTag_complete isTag tail
          rw [← inside, unmatched] at found
          cases found
      rw [List.cons_append, escapeLarkAtTags_plain still, escapeLarkAtTags_plain unmatched, later,
        List.cons_append]

/-- No tag crosses a cut in front of an opening bracket. -/
theorem not_crosses_of_opening {first rest : List Char} : ¬ Crosses first ('<' :: rest) := by
  rintro ⟨start, stop, begun, ended, _, ⟨tail, same⟩, tagged⟩
  obtain ⟨char, stop, rfl⟩ := List.exists_cons_of_ne_nil ended
  cases (List.cons.inj same).1
  exact begun tagged.opening

/-- No tag crosses a cut after a closing bracket. -/
theorem not_crosses_of_closing {first second : List Char} : ¬ Crosses (first ++ ['>']) second := by
  rintro ⟨start, stop, begun, ended, ⟨before, same⟩, _, tagged⟩
  obtain ⟨init, last, rfl⟩ := List.eq_nil_or_concat start |>.resolve_left begun
  rw [List.concat_eq_append, ← List.append_assoc] at same
  cases (List.append_inj' same rfl).2
  rw [List.concat_eq_append, List.append_assoc] at tagged
  exact ended tagged.closing

/-- No tag crosses a cut into a text without a closing bracket. -/
theorem not_crosses_of_not_mem_right {first second : List Char} (unclosed : '>' ∉ second) :
    ¬ Crosses first second := by
  rintro ⟨start, stop, begun, ended, _, after, inside, body, same⟩
  rcases List.eq_nil_or_concat stop with rfl | ⟨init, last, rfl⟩
  · exact ended rfl
  · rw [List.concat_eq_append, ← List.append_assoc, ← List.cons_append] at same
    cases (List.append_inj' same rfl).2
    exact unclosed (after.subset (List.concat_eq_append ▸ List.mem_append_right _
      List.mem_cons_self))

/-- No tag crosses a cut out of a text without an opening bracket. -/
theorem not_crosses_of_not_mem_left {first second : List Char} (unopened : '<' ∉ first) :
    ¬ Crosses first second := by
  rintro ⟨start, stop, begun, ended, before, _, inside, body, same⟩
  obtain ⟨char, start, rfl⟩ := List.exists_cons_of_ne_nil begun
  cases (List.cons.inj same).1
  exact unopened (before.subset List.mem_cons_self)

/-- What a part of a text contains, the text contains. -/
theorem ContainsAtTag.of_infix {text whole : List Char} (contains : ContainsAtTag text)
    (part : text <:+: whole) : ContainsAtTag whole := by
  obtain ⟨tag, tagged, inside⟩ := contains
  exact ⟨tag, tagged, inside.trans part⟩

/-- A tag of two texts is a tag of one of them, or crosses the cut. -/
theorem infix_append_cases {tag first second : List Char} (tagged : IsAtTag tag)
    (inside : tag <:+: first ++ second) :
    tag <:+: first ∨ tag <:+: second ∨
      ∃ start stop, tag = start ++ stop ∧ start ≠ [] ∧ stop ≠ [] ∧ start <:+ first ∧
        stop <+: second := by
  obtain ⟨before, after, same⟩ := inside
  rw [List.append_assoc] at same
  rcases List.append_eq_append_iff.mp same with ⟨start, rfl, split⟩ | ⟨later, _, rfl⟩
  · rcases List.append_eq_append_iff.mp split with ⟨more, rfl, _⟩ | ⟨stop, rfl, rfl⟩
    · exact .inl ⟨before, more, (List.append_assoc _ _ _)⟩
    · by_cases begun : start = []
      · subst begun
        exact .inr (.inl ⟨[], after, rfl⟩)
      · by_cases ended : stop = []
        · subst ended
          exact .inl ⟨before, [], by simp only [List.append_nil]⟩
        · exact .inr (.inr ⟨start, stop, rfl, begun, ended, List.suffix_append before start,
            List.prefix_append stop after⟩)
  · exact .inr (.inl ⟨later, after, List.append_assoc _ _ _⟩)

/-- A tag is read apart from what is before and after it. -/
theorem escapeLarkAtTags_around {tag : List Char} (tagged : IsAtTag tag)
    (before after : List Char) :
    escapeLarkAtTags (before ++ (tag ++ after)) =
      escapeLarkAtTags before ++ (escapeBrackets tag ++ escapeLarkAtTags after) := by
  obtain ⟨rest, same⟩ := tagged.starts
  have apart : ¬ Crosses before (tag ++ after) := by
    rw [same]
    exact not_crosses_of_opening
  rw [escapeLarkAtTags_append apart, escapeLarkAtTags_tag tagged]

/-- A text without tags is its own escape. -/
theorem escapeLarkAtTags_of_not_contains {text : List Char} (tagless : ¬ ContainsAtTag text) :
    escapeLarkAtTags text = text := by
  induction text using atTag_induction with
  | nil => rfl
  | tagged tag rest isTag _ => exact (tagless ⟨tag, isTag, [], rest, rfl⟩).elim
  | plain char rest unmatched ih =>
      have later := ih fun contains =>
          tagless (contains.of_infix (List.suffix_cons char rest).isInfix)
      rw [escapeLarkAtTags_plain unmatched, later]

/-- Every character is written with at least one. -/
theorem length_bracketEntity (char : Char) : 1 ≤ (bracketEntity char).length := by
  unfold bracketEntity
  split
  · decide
  · split
    · decide
    · exact Nat.le_refl 1

/-- Replacing brackets by entities never shortens a text. -/
theorem length_escapeBrackets (text : List Char) : text.length ≤ (escapeBrackets text).length := by
  induction text with
  | nil => exact Nat.le_refl 0
  | cons char rest ih =>
      have here := length_bracketEntity char
      rw [escapeBrackets_cons, List.length_append, List.length_cons]
      omega

/-- Escaping tags never shortens a text. -/
theorem length_escapeLarkAtTags (text : List Char) :
    text.length ≤ (escapeLarkAtTags text).length := by
  induction text using atTag_induction with
  | nil => exact Nat.le_refl 0
  | tagged tag rest isTag ih =>
      have here := length_escapeBrackets tag
      rw [escapeLarkAtTags_tag isTag, List.length_append, List.length_append]
      omega
  | plain char rest unmatched ih =>
      rw [escapeLarkAtTags_plain unmatched, List.length_cons, List.length_cons]
      omega

/-- A tag becomes longer when it is escaped. -/
theorem IsAtTag.length_lt {tag : List Char} (tagged : IsAtTag tag) :
    tag.length < (escapeBrackets tag).length := by
  obtain ⟨rest, rfl⟩ := tagged.starts
  have later := length_escapeBrackets rest
  have here : (bracketEntity '<').length = 5 := by decide
  rw [escapeBrackets_cons, List.length_append, List.length_cons]
  omega

/-- A text that lacks one of the brackets is its own escape. -/
theorem escapeLarkAtTags_of_not_mem {text : List Char} (missing : '<' ∉ text ∨ '>' ∉ text) :
    escapeLarkAtTags text = text := by
  apply escapeLarkAtTags_of_not_contains
  intro contains
  obtain ⟨tag, tagged, inside⟩ := contains
  rcases missing with unopened | unclosed
  · obtain ⟨rest, rfl⟩ := tagged.starts
    exact unopened (inside.subset List.mem_cons_self)
  · exact unclosed (inside.subset tagged.ends)

/-- Texts that a tag crosses are escaped to less when they are escaped apart. -/
theorem Crosses.length_lt {first second : List Char} (crosses : Crosses first second) :
    (escapeLarkAtTags first).length + (escapeLarkAtTags second).length <
      (escapeLarkAtTags (first ++ second)).length := by
  obtain ⟨start, stop, begun, ended, ⟨before, rfl⟩, ⟨after, rfl⟩, tagged⟩ := crosses
  have longer := tagged.length_lt
  obtain ⟨opening, opened⟩ : ∃ opening, start = '<' :: opening := by
    obtain ⟨char, opening, rfl⟩ := List.exists_cons_of_ne_nil begun
    obtain ⟨rest, same⟩ := tagged.starts
    cases (List.cons.inj same).1
    exact ⟨opening, rfl⟩
  obtain ⟨closing, closed⟩ : ∃ closing, stop = closing ++ ['>'] := by
    obtain ⟨closing, last, rfl⟩ := List.eq_nil_or_concat stop |>.resolve_left ended
    obtain ⟨inside, _, same⟩ := tagged
    rw [List.concat_eq_append, ← List.append_assoc, ← List.cons_append] at same
    cases (List.append_inj' same rfl).2
    exact ⟨closing, List.concat_eq_append⟩
  have unclosed : '>' ∉ start := by
    intro member
    obtain ⟨left, right, rfl⟩ := List.append_of_mem member
    rw [List.append_assoc, List.cons_append] at tagged
    exact ended (List.append_eq_nil_iff.mp tagged.closing).2
  have unopened : '<' ∉ stop := by
    intro member
    obtain ⟨left, right, rfl⟩ := List.append_of_mem member
    rw [← List.append_assoc] at tagged
    exact begun (List.append_eq_nil_iff.mp tagged.opening).1
  have left : escapeLarkAtTags (before ++ start) = escapeLarkAtTags before ++ start := by
    rw [escapeLarkAtTags_append (opened ▸ not_crosses_of_opening),
      escapeLarkAtTags_of_not_mem (.inr unclosed)]
  have right : escapeLarkAtTags (stop ++ after) = stop ++ escapeLarkAtTags after := by
    rw [escapeLarkAtTags_append (closed ▸ not_crosses_of_closing),
      escapeLarkAtTags_of_not_mem (.inl unopened)]
  have whole : before ++ start ++ (stop ++ after) = before ++ ((start ++ stop) ++ after) := by
    simp only [List.append_assoc]
  rw [left, right, whole, escapeLarkAtTags_around tagged]
  simp only [List.length_append] at longer ⊢
  omega

/-- A text is escaped to at least as much as its two parts are. -/
theorem length_escapeLarkAtTags_append (first second : List Char) :
    (escapeLarkAtTags first).length + (escapeLarkAtTags second).length ≤
      (escapeLarkAtTags (first ++ second)).length := by
  by_cases crosses : Crosses first second
  · exact crosses.length_lt.le
  · rw [escapeLarkAtTags_append crosses, List.length_append]

/-- Escaping changes the texts that contain a tag, and only these. -/
theorem escapeLarkAtTags_eq_self_iff {text : List Char} :
    escapeLarkAtTags text = text ↔ ¬ ContainsAtTag text := by
  refine ⟨fun same => ?_, escapeLarkAtTags_of_not_contains⟩
  rintro ⟨tag, tagged, before, after, rfl⟩
  have lengths := congrArg List.length same
  have start := length_escapeLarkAtTags before
  have stop := length_escapeLarkAtTags after
  have longer := tagged.length_lt
  rw [List.append_assoc, escapeLarkAtTags_around tagged] at lengths
  simp only [List.length_append] at lengths
  omega

end Escaping

section Nesting

/-- Tags among characters that are no brackets. -/
inductive TagsAmong : List Char → Prop
  | nil : TagsAmong []
  | char {char : Char} {rest : List Char} : char ≠ '<' → char ≠ '>' → TagsAmong rest →
      TagsAmong (char :: rest)
  | tag {tag rest : List Char} : IsAtTag tag → TagsAmong rest → TagsAmong (tag ++ rest)

/-- Somewhere what would be a tag has tags between its brackets. -/
def NestsTag (text : List Char) : Prop :=
  ∃ before start attributes after, text = before ++ '<' :: (start ++ (attributes ++ '>' :: after)) ∧
    TagStart start ∧ StartsSpaced attributes ∧ TagsAmong attributes ∧ '<' ∈ attributes

/-- A nested tag stays one when more comes before it. -/
theorem NestsTag.append_left {text : List Char} (nests : NestsTag text) (start : List Char) :
    NestsTag (start ++ text) := by
  obtain ⟨before, opening, attributes, after, rfl, starts⟩ := nests
  exact ⟨start ++ before, opening, attributes, after, (List.append_assoc _ _ _).symm, starts⟩

/-- Tags among other characters are none when nothing opens. -/
theorem TagsAmong.bracketless {text : List Char} (among : TagsAmong text) (unopened : '<' ∉ text) :
    Bracketless text := by
  induction among with
  | nil => exact ⟨List.not_mem_nil, List.not_mem_nil⟩
  | @char char rest opening closing _ ih =>
      have later := ih fun member => unopened (List.mem_cons_of_mem _ member)
      refine ⟨unopened, fun member => ?_⟩
      rcases List.mem_cons.mp member with same | member
      · exact closing same.symm
      · exact later.2 member
  | @tag tag rest isTag _ _ =>
      obtain ⟨inside, rfl⟩ := isTag.starts
      exact (unopened List.mem_cons_self).elim

/-- Tags among other characters are all escaped. -/
theorem TagsAmong.escaped {text : List Char} (among : TagsAmong text) (rest : List Char) :
    escapeLarkAtTags (text ++ rest) = escapeBrackets text ++ escapeLarkAtTags rest := by
  induction among with
  | nil => rfl
  | @char char inner opening closing _ ih =>
      have unmatched : matchAtTag (char :: (inner ++ rest)) = none := by
        by_contra matched
        obtain ⟨length, matched⟩ := Option.ne_none_iff_exists'.mp matched
        obtain ⟨tag, after, isTag, split, _⟩ := matchAtTag_sound matched
        obtain ⟨inside, rfl⟩ := isTag.starts
        exact opening (List.cons.inj split).1
      rw [List.cons_append, escapeLarkAtTags_plain unmatched, ih, escapeBrackets_cons,
        bracketEntity_of_ne opening closing]
      rfl
  | @tag tag inner isTag _ ih =>
      rw [List.append_assoc, escapeLarkAtTags_tag isTag, ih, escapeBrackets, escapeBrackets,
        escapeBrackets, List.flatMap_append, List.append_assoc]

/-- The first bracket among tags opens. -/
theorem TagsAmong.first_opens {text rest inside after : List Char} (among : TagsAmong text)
    (opened : '<' ∈ text) (plain : Bracketless inside)
    (same : text ++ rest = inside ++ '>' :: after) :
    False := by
  induction among generalizing inside with
  | nil => exact List.not_mem_nil opened
  | @char char inner opening closing _ ih =>
      cases inside with
      | nil => exact closing (List.cons.inj same).1
      | cons other inside =>
          obtain ⟨rfl, following⟩ := List.cons.inj same
          rcases List.mem_cons.mp opened with same | member
          · exact opening same.symm
          · exact ih member ⟨fun member => plain.1 (List.mem_cons_of_mem _ member),
              fun member => plain.2 (List.mem_cons_of_mem _ member)⟩ following
  | @tag tag inner isTag _ _ =>
      obtain ⟨body, rfl⟩ := isTag.starts
      cases inside with
      | nil => cases (List.cons.inj same).1
      | cons other inside =>
          cases (List.cons.inj same).1
          exact plain.1 List.mem_cons_self

/-- What escaping left as it is starts the text, as long as no entity is seen. -/
theorem escapeLarkAtTags_cons {char : Char} {text after : List Char}
    (escaped : escapeLarkAtTags text = char :: after) (unlike : char ≠ '&') :
    ∃ rest, text = char :: rest ∧ escapeLarkAtTags rest = after := by
  induction text using atTag_induction with
  | nil => cases escaped
  | tagged tag rest isTag _ =>
      obtain ⟨inside, rfl⟩ := isTag.starts
      rw [escapeLarkAtTags_tag isTag, escapeBrackets_cons] at escaped
      exact (unlike (List.cons.inj escaped).1.symm).elim
  | plain other rest unmatched _ =>
      rw [escapeLarkAtTags_plain unmatched] at escaped
      obtain ⟨rfl, same⟩ := List.cons.inj escaped
      exact ⟨rest, rfl, same⟩

/-- Up to a bracket that escaping left closing there are tags among other characters. -/
theorem escapeLarkAtTags_until {text inside after : List Char} (plain : Bracketless inside)
    (escaped : escapeLarkAtTags text = inside ++ '>' :: after) :
    ∃ attributes rest, text = attributes ++ '>' :: rest ∧ TagsAmong attributes ∧
      inside = escapeBrackets attributes := by
  induction text using atTag_induction generalizing inside with
  | nil =>
      have absent := congrArg List.length escaped
      rw [escapeLarkAtTags_nil, List.length_append, List.length_cons, List.length_nil] at absent
      omega
  | tagged tag rest isTag ih =>
      rw [escapeLarkAtTags_tag isTag] at escaped
      rcases List.append_eq_append_iff.mp escaped with ⟨more, rfl, later⟩ | ⟨more, whole, following⟩
      · obtain ⟨attributes, remains, rfl, among, rfl⟩ :=
          ih ⟨fun member => plain.1 (List.mem_append_right _ member),
            fun member => plain.2 (List.mem_append_right _ member)⟩ later
        refine ⟨tag ++ attributes, remains, (List.append_assoc _ _ _).symm, .tag isTag among, ?_⟩
        exact List.flatMap_append.symm
      · cases more with
        | nil =>
            rw [List.append_nil] at whole
            subst whole
            obtain ⟨attributes, remains, rfl, among, same⟩ :=
              @ih [] ⟨List.not_mem_nil, List.not_mem_nil⟩ following.symm
            refine ⟨tag ++ attributes, remains, (List.append_assoc _ _ _).symm,
              .tag isTag among, ?_⟩
            rw [escapeBrackets, escapeBrackets, List.flatMap_append, ← escapeBrackets,
              ← escapeBrackets,
              ← same, List.append_nil]
        | cons char more =>
            cases (List.cons.inj following).1
            have clean := (escapeBrackets_bracketless tag).2
            rw [whole] at clean
            exact (clean (List.mem_append_right _ List.mem_cons_self)).elim
  | plain char rest unmatched ih =>
      rw [escapeLarkAtTags_plain unmatched] at escaped
      cases inside with
      | nil =>
          cases (List.cons.inj escaped).1
          exact ⟨[], rest, rfl, .nil, rfl⟩
      | cons other inside =>
          obtain ⟨rfl, later⟩ := List.cons.inj escaped
          have opening : char ≠ '<' := fun same => plain.1 (same ▸ List.mem_cons_self)
          have closing : char ≠ '>' := fun same => plain.2 (same ▸ List.mem_cons_self)
          obtain ⟨attributes, remains, rfl, among, rfl⟩ :=
            ih ⟨fun member => plain.1 (List.mem_cons_of_mem _ member),
              fun member => plain.2 (List.mem_cons_of_mem _ member)⟩ later
          refine ⟨char :: attributes, remains, rfl, .char opening closing among, ?_⟩
          rw [escapeBrackets_cons, bracketEntity_of_ne opening closing]
          rfl

/-- An escaped text that starts without an ampersand starts as the text did. -/
theorem escapeLarkAtTags_start {start text after : List Char} (unlike : '&' ∉ start)
    (escaped : escapeLarkAtTags text = start ++ after) :
    ∃ rest, text = start ++ rest ∧ escapeLarkAtTags rest = after := by
  induction start generalizing text with
  | nil => exact ⟨text, rfl, escaped⟩
  | cons char start ih =>
      have here : char ≠ '&' := fun same => unlike (same ▸ List.mem_cons_self)
      obtain ⟨rest, rfl, following⟩ := escapeLarkAtTags_cons escaped here
      obtain ⟨later, rfl, same⟩ := ih (fun member => unlike (List.mem_cons_of_mem _ member))
        following
      exact ⟨later, rfl, same⟩

/-- The start of a tag has no ampersand. -/
theorem TagStart.not_ampersand {start : List Char} (starts : TagStart start) : '&' ∉ start := by
  obtain ⟨slash, first, second, rfl, slashed, letter, other⟩ := starts
  have unlike : ∀ sign ∈ ['a', 't'], matchesIgnoreCase sign '&' = false :=
    tagLetters_unlike (by decide)
  intro member
  rcases List.mem_append.mp member with early | late
  · rcases slashed with rfl | rfl
    · exact List.not_mem_nil early
    · exact absurd early (by decide)
  · simp only [List.mem_cons, List.not_mem_nil, or_false] at late
    rcases late with rfl | rfl
    · rw [unlike 'a' (by decide)] at letter
      cases letter
    · rw [unlike 't' (by decide)] at other
      cases other

/-- White space at the start of an escaped text was there before. -/
theorem startsSpaced_of_escapeBrackets {text : List Char}
    (spaced : StartsSpaced (escapeBrackets text)) : StartsSpaced text := by
  cases text with
  | nil => rfl
  | cons char rest =>
      rw [escapeBrackets_cons] at spaced
      rcases bracketEntity_cases char with image | ⟨entity, image⟩
      · rw [image] at spaced
        exact spaced
      · rw [image] at spaced
        exact absurd spaced (by decide : ¬ isSpaceChar '&')

/-- White space at the start of a text is there after it is escaped. -/
theorem startsSpaced_escapeBrackets {text : List Char} (spaced : StartsSpaced text) :
    StartsSpaced (escapeBrackets text) := by
  cases text with
  | nil => rfl
  | cons char rest =>
      have opening : char ≠ '<' := by
        rintro rfl
        exact absurd spaced (by decide : ¬ isSpaceChar '<')
      have closing : char ≠ '>' := by
        rintro rfl
        exact absurd spaced (by decide : ¬ isSpaceChar '>')
      rw [escapeBrackets_cons, bracketEntity_of_ne opening closing]
      exact spaced

/-- A tag of a text lies after a start that opens nothing. -/
theorem containsAtTag_of_append {first second : List Char} (unopened : '<' ∉ first)
    (contains : ContainsAtTag (first ++ second)) : ContainsAtTag second := by
  induction first with
  | nil => exact contains
  | cons char rest ih =>
      obtain ⟨tag, tagged, inside⟩ := contains
      refine ih (fun member => unopened (List.mem_cons_of_mem _ member)) ⟨tag, tagged, ?_⟩
      rcases List.infix_cons_iff.mp inside with ⟨after, same⟩ | later
      · obtain ⟨body, rfl⟩ := tagged.starts
        cases (List.cons.inj same).1
        exact (unopened List.mem_cons_self).elim
      · exact later

/-- A tag that escaping left was none before: the tags in it were escaped. -/
theorem nestsTag_of_contains {text : List Char} (contains : ContainsAtTag (escapeLarkAtTags text)) :
    NestsTag text := by
  induction text using atTag_induction with
  | nil =>
      obtain ⟨tag, tagged, inside⟩ := contains
      exact (tagged.ne_nil (List.infix_nil.mp inside)).elim
  | tagged tag rest isTag ih =>
      rw [escapeLarkAtTags_tag isTag] at contains
      exact (ih (containsAtTag_of_append (escapeBrackets_bracketless tag).1 contains)).append_left
        tag
  | plain char rest unmatched ih =>
      rw [escapeLarkAtTags_plain unmatched] at contains
      obtain ⟨tag, tagged, inside⟩ := contains
      rcases List.infix_cons_iff.mp inside with ⟨after, same⟩ | later
      · obtain ⟨_, ⟨start, attributes, rfl, starts, spaced, plain⟩, rfl⟩ := tagged
        rw [List.cons_append] at same
        obtain ⟨rfl, following⟩ := List.cons.inj same
        rw [List.append_assoc, List.append_assoc] at following
        obtain ⟨tail, rfl, escaped⟩ := escapeLarkAtTags_start starts.not_ampersand following.symm
        obtain ⟨inner, remains, rfl, among, rfl⟩ := escapeLarkAtTags_until plain escaped
        have spacedInner := startsSpaced_of_escapeBrackets spaced
        refine ⟨[], start, inner, remains, rfl, starts, spacedInner, among, ?_⟩
        by_contra unopened
        have whole : IsAtTag ('<' :: ((start ++ inner) ++ ['>'])) :=
          ⟨_, ⟨start, inner, rfl, starts, spacedInner, among.bracketless unopened⟩, rfl⟩
        have found := matchAtTag_complete whole remains
        rw [List.cons_append, List.append_assoc, List.append_assoc, List.singleton_append,
          unmatched] at found
        cases found
      · exact (ih ⟨tag, tagged, later⟩).append_left [char]

/-- Escaping leaves the outer of two nested tags, with the inner one for an attribute. -/
theorem contains_of_nestsTag {text : List Char} (nests : NestsTag text) :
    ContainsAtTag (escapeLarkAtTags text) := by
  obtain ⟨before, start, attributes, after, rfl, starts, spaced, among, opened⟩ := nests
  have plain := starts.bracketless
  have unmatched : matchAtTag ('<' :: (start ++ (attributes ++ '>' :: after))) = none := by
    by_contra matched
    obtain ⟨length, matched⟩ := Option.ne_none_iff_exists'.mp matched
    obtain ⟨tag, rest, ⟨inside, body, rfl⟩, split, _⟩ := matchAtTag_sound matched
    rw [List.cons_append] at split
    have following := (List.cons.inj split).2
    rw [List.append_assoc] at following
    have startsInside : ∃ more, inside = start ++ more := by
      rcases List.append_eq_append_iff.mp following with ⟨more, same, _⟩ | ⟨more, same, later⟩
      · exact ⟨more, same⟩
      · cases more with
        | nil => exact ⟨[], by rw [same, List.append_nil, List.append_nil]⟩
        | cons char more =>
            cases (List.cons.inj later).1
            exact (plain.2 (same ▸ List.mem_append_right _ List.mem_cons_self)).elim
    obtain ⟨more, rfl⟩ := startsInside
    rw [List.append_assoc] at following
    have bodyPlain := body.bracketless
    exact among.first_opens opened ⟨fun member => bodyPlain.1 (List.mem_append_right _ member),
      fun member => bodyPlain.2 (List.mem_append_right _ member)⟩
        (List.append_cancel_left following)
  have closed : matchAtTag ('>' :: after) = none := rfl
  have inner : escapeLarkAtTags (start ++ (attributes ++ '>' :: after)) =
      start ++ (escapeBrackets attributes ++ '>' :: escapeLarkAtTags after) := by
    rw [escapeLarkAtTags_append (not_crosses_of_not_mem_left plain.1), among.escaped,
      escapeLarkAtTags_plain closed, escapeLarkAtTags_of_not_contains]
    rintro ⟨tag, tagged, inside⟩
    obtain ⟨rest, rfl⟩ := tagged.starts
    exact plain.1 (inside.subset List.mem_cons_self)
  rw [escapeLarkAtTags_append not_crosses_of_opening, escapeLarkAtTags_plain unmatched, inner]
  refine ⟨'<' :: ((start ++ escapeBrackets attributes) ++ ['>']),
    ⟨_, ⟨start, _, rfl, starts, startsSpaced_escapeBrackets spaced,
      escapeBrackets_bracketless attributes⟩, rfl⟩,
    escapeLarkAtTags before, escapeLarkAtTags after, ?_⟩
  simp only [List.append_assoc, List.cons_append, List.nil_append]

/-- Escaping leaves a tag exactly where tags are nested. -/
theorem containsAtTag_escapeLarkAtTags {text : List Char} :
    ContainsAtTag (escapeLarkAtTags text) ↔ NestsTag text :=
  ⟨nestsTag_of_contains, contains_of_nestsTag⟩

end Nesting

end LarkBot
