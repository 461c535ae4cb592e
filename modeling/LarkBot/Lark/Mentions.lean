import LarkBot.Core.Redaction
import LarkBot.Core.Text
import LarkBot.Foundation.Rewriting

/-! # Mentions in a message

An at-tag in the text of a message mentions users. The renderer replaces the brackets of
every tag by entities: everywhere in plain text, and in Markdown outside of fenced blocks
and of inline code. Neutralizing rewrites nothing but such tags
(`LarkBot.neutralizeLarkMentions_rewrites`).
-/

namespace LarkBot

open Foundation

section AtTags

/-- `_LARK_AT_TAG_RE` at the start of `text`, with the length of the match. -/
def matchAtTag : List Char → Option Nat
  | '<' :: rest =>
      let (slash, name) := if rest.head? = some '/' then (1, rest.tail) else (0, rest)
      (matchWord "at".toList name).bind fun (_, inside) =>
        let (attributes, closing) := spanClass (fun char => char != '<' && char != '>') inside
        if closing.head? = some '>' ∧ attributes.head?.all isSpaceChar then
          some (1 + slash + 2 + attributes.length + 1)
        else none
  | _ => none

/-- The entity of an angle bracket. -/
def bracketEntity (char : Char) : List Char :=
  if char = '<' then "&#60;".toList else if char = '>' then "&#62;".toList else [char]

/-- `.replace("<", "&#60;").replace(">", "&#62;")`. -/
def escapeBrackets (text : List Char) : List Char := text.flatMap bracketEntity

/-- `_escape_lark_at_tags`. -/
def escapeLarkAtTags (text : List Char) : List Char := subMatches matchAtTag escapeBrackets 0 text

/-- A tag whose brackets are replaced. -/
def EscapesTag : List Char → List Char → Prop := ReplacesMatch matchAtTag escapeBrackets

/-- A tag has at least one character. -/
theorem matchAtTag_positive {text : List Char} {length : Nat}
    (matched : matchAtTag text = some length) : 0 < length := by
  unfold matchAtTag at matched
  split at matched
  next =>
    obtain ⟨_, _, tagged⟩ := Option.bind_eq_some_iff.mp matched
    dsimp only at tagged
    split at tagged <;> cases tagged
    exact Nat.succ_pos _
  next => cases matched

/-- Escaping rewrites tags. -/
theorem escapeLarkAtTags_rewrites (text : List Char) :
    Rewritten EscapesTag text (escapeLarkAtTags text) :=
  rewritten_subMatches (fun _ _ => matchAtTag_positive) text

/-- No bracket is left to be escaped. -/
theorem bracketEntity_escaped (char : Char) :
    (bracketEntity char).flatMap bracketEntity = bracketEntity char := by
  unfold bracketEntity
  split
  · rfl
  · split
    · rfl
    next other closing =>
      rw [List.flatMap_singleton, if_neg other, if_neg closing]

/-- A character is kept, or becomes an entity. -/
theorem bracketEntity_cases (char : Char) :
    bracketEntity char = [char] ∨ ∃ entity, bracketEntity char = '&' :: entity := by
  unfold bracketEntity
  split
  · exact .inr ⟨_, rfl⟩
  · split
    · exact .inr ⟨_, rfl⟩
    · exact .inl rfl

/-- Two texts are escaped one after the other. -/
theorem escapeBrackets_append (first second : List Char) :
    escapeBrackets (first ++ second) = escapeBrackets first ++ escapeBrackets second :=
  List.flatMap_append

/-- Escaping brackets twice is escaping them once. -/
theorem escapeBrackets_escapeBrackets (text : List Char) :
    escapeBrackets (escapeBrackets text) = escapeBrackets text := by
  unfold escapeBrackets
  induction text with
  | nil => rfl
  | cons char rest ih =>
      rw [List.flatMap_cons, List.flatMap_append, ih, bracketEntity_escaped]

/-- Texts that were rewritten by escaping tags have the same brackets and entities. -/
theorem escapeBrackets_rewritten {before after : List Char}
    (rewritten : Rewritten EscapesTag before after) : escapeBrackets after =
    escapeBrackets before := by
  apply rewritten.flatMap_eq
  rintro _ _ ⟨text, length, _, rfl, rfl⟩
  exact escapeBrackets_escapeBrackets _

end AtTags

section InlineCode

/-- A match of `_INLINE_BACKTICK_RE`. -/
structure BacktickRun where
  start : Nat
  length : Nat
  deriving DecidableEq, Repr

def BacktickRun.stop (run : BacktickRun) : Nat := run.start + run.length

/-- The runs of backticks from `index` on, where the last `count` items were backticks. -/
def backtickRuns : (index count : Nat) → List Char → List BacktickRun
  | index, count, [] => if count = 0 then [] else [⟨index - count, count⟩]
  | index, count, char :: rest =>
      if char = '`' then backtickRuns (index + 1) (count + 1) rest
      else (if count = 0 then [] else [⟨index - count, count⟩]) ++ backtickRuns (index + 1) 0 rest

/-- `_is_escaped`. -/
def isEscaped (text : List Char) (index : Nat) : Bool :=
  ((text.take index).reverse.takeWhile (· == '\\')).length % 2 == 1

/-- The first run with this length, and how many runs come before it. -/
def closingRun (length : Nat) : List BacktickRun → Option (BacktickRun × Nat)
  | [] => none
  | run :: rest =>
      if run.length = length then some (run, 0)
      else (closingRun length rest).map fun (closing, before) => (closing, before + 1)

/-- `text[start:stop]`. -/
def slice (text : List Char) (start stop : Nat) : List Char := (text.take stop).drop start

/-- The loop of `_neutralize_inline_mentions`: `cursor` is where the rest of the text starts,
and the next `skipped` runs are inside the last span. -/
def neutralizeSpans (text : List Char) : (cursor skipped : Nat) → List BacktickRun → List Char
  | cursor, _, [] => escapeLarkAtTags (text.drop cursor)
  | cursor, skipped + 1, _ :: rest => neutralizeSpans text cursor skipped rest
  | cursor, 0, opening :: rest =>
      match closingRun opening.length rest with
      | none => escapeLarkAtTags (text.drop cursor)
      | some (closing, before) =>
          escapeLarkAtTags (slice text cursor opening.start) ++
            (slice text opening.start closing.stop ++
              neutralizeSpans text closing.stop (before + 1) rest)

/-- `_neutralize_inline_mentions`. -/
def neutralizeInlineMentions (text : List Char) : List Char :=
  neutralizeSpans text 0 0 ((backtickRuns 0 0 text).filter fun run => !isEscaped text run.start)

/-- Runs in order, from `cursor` on. -/
def RunsFrom (cursor : Nat) (runs : List BacktickRun) : Prop :=
  (∀ run ∈ runs, cursor ≤ run.start) ∧ runs.Pairwise fun first second => first.stop ≤ second.start

/-- Runs from a later position on are runs from an earlier one on. -/
theorem RunsFrom.mono {cursor later : Nat} {runs : List BacktickRun} (ordered : RunsFrom later runs)
    (earlier : cursor ≤ later) : RunsFrom cursor runs :=
  ⟨fun run member => earlier.trans (ordered.1 run member), ordered.2⟩

/-- Runs are found from left to right. -/
theorem backtickRuns_ordered (text : List Char) (index count : Nat) (counted : count ≤ index) :
    RunsFrom (index - count) (backtickRuns index count text) := by
  induction text generalizing index count with
  | nil =>
      unfold backtickRuns
      split
      · exact ⟨fun _ absent => (List.not_mem_nil absent).elim, .nil⟩
      · refine ⟨fun run member => ?_, List.pairwise_singleton _ _⟩
        rw [List.mem_singleton.mp member]
  | cons char rest ih =>
      unfold backtickRuns
      split
      · have later := ih (index + 1) (count + 1) (Nat.succ_le_succ counted)
        rwa [Nat.succ_sub_succ_eq_sub] at later
      · have later := ih (index + 1) 0 (Nat.zero_le _)
        split
        · exact later.mono ((Nat.sub_le _ _).trans (Nat.le_succ _))
        · refine ⟨fun run member => ?_, List.pairwise_cons.mpr ⟨fun run member => ?_, later.2⟩⟩
          · rcases List.mem_cons.mp member with rfl | member
            · exact Nat.le_refl _
            · exact ((Nat.sub_le _ _).trans (Nat.le_succ _)).trans (later.1 run member)
          · have after := later.1 run member
            change index - count + count ≤ run.start
            rw [Nat.sub_add_cancel counted]
            exact (Nat.le_succ index).trans after

/-- Runs that are left out leave the others in order. -/
theorem RunsFrom.filter {cursor : Nat} {runs : List BacktickRun} (ordered : RunsFrom cursor runs)
    (kept : BacktickRun → Bool) : RunsFrom cursor (runs.filter kept) :=
  ⟨fun run member => ordered.1 run (List.mem_filter.mp member).1, ordered.2.filter kept⟩

/-- The closing run is a later run, and the runs after it come after it. -/
theorem closingRun_spec {length : Nat} {runs : List BacktickRun} {closing : BacktickRun}
    {before : Nat} (found : closingRun length runs = some (closing, before)) :
    runs.drop before = closing :: runs.drop (before + 1) := by
  induction runs generalizing before with
  | nil => cases found
  | cons run rest ih =>
      unfold closingRun at found
      split at found
      · cases found
        rfl
      · obtain ⟨⟨later, count⟩, inside, same⟩ := Option.map_eq_some_iff.mp found
        cases same
        exact ih inside

/-- The runs after the one that closes a span come after the span. -/
theorem RunsFrom.closing {cursor length before : Nat} {opening closing : BacktickRun}
    {rest : List BacktickRun} (ordered : RunsFrom cursor (opening :: rest))
    (found : closingRun length rest = some (closing, before)) :
    cursor ≤ opening.start ∧ opening.stop ≤ closing.start ∧ closing ∈ rest ∧
      RunsFrom closing.stop (rest.drop (before + 1)) := by
  have later := closingRun_spec found
  have member : closing ∈ rest := List.mem_of_mem_drop (later ▸ List.mem_cons_self)
  obtain ⟨apart, chain⟩ := List.pairwise_cons.mp ordered.2
  have sorted : (rest.drop before).Pairwise fun first second => first.stop ≤ second.start :=
    chain.drop
  rw [later] at sorted
  exact ⟨ordered.1 opening List.mem_cons_self, apart closing member, member,
    List.pairwise_cons.mp sorted⟩

/-- A text from `start` on is a slice and the rest. -/
theorem slice_append {text : List Char} {start stop : Nat} (ordered : start ≤ stop) :
    slice text start stop ++ text.drop stop = text.drop start := by
  unfold slice
  rw [List.drop_take]
  have rest : text.drop stop = (text.drop start).drop (stop - start) := by
    rw [List.drop_drop, Nat.add_sub_cancel' ordered]
  rw [rest, List.take_append_drop]

/-- Neutralizing what is between the code spans of a line rewrites tags. -/
theorem neutralizeSpans_rewrites (text : List Char) (runs : List BacktickRun) :
    ∀ cursor skipped, RunsFrom cursor (runs.drop skipped) →
      Rewritten EscapesTag (text.drop cursor) (neutralizeSpans text cursor skipped runs) := by
  induction runs with
  | nil =>
      intro cursor skipped _
      unfold neutralizeSpans
      exact escapeLarkAtTags_rewrites _
  | cons opening rest ih =>
      intro cursor skipped ordered
      cases skipped with
      | succ skipped => exact ih cursor skipped ordered
      | zero =>
          unfold neutralizeSpans
          split
          next => exact escapeLarkAtTags_rewrites _
          next closing before found =>
            obtain ⟨opens, apart, _, remaining⟩ := ordered.closing found
            have closes : opening.start ≤ closing.stop :=
              ((Nat.le_add_right _ _).trans apart).trans (Nat.le_add_right _ _)
            rw [← slice_append opens, ← slice_append closes]
            exact (escapeLarkAtTags_rewrites _).append
              ((Rewritten.refl _).append (ih closing.stop (before + 1) remaining))

/-- Neutralizing a line rewrites tags. -/
theorem neutralizeInlineMentions_rewrites (text : List Char) :
    Rewritten EscapesTag text (neutralizeInlineMentions text) := by
  have ordered := backtickRuns_ordered text 0 0 (Nat.le_refl 0)
  exact neutralizeSpans_rewrites text _ 0 0 (ordered.filter _)

end InlineCode

section Fences

/-- `str.splitlines(keepends=True)`. -/
def splitLinesKeepEnds : List Char → List (List Char)
  | [] => []
  | '\r' :: '\n' :: rest => ['\r', '\n'] :: splitLinesKeepEnds rest
  | char :: rest =>
      if isLineBoundary char then [char] :: splitLinesKeepEnds rest
      else
        match splitLinesKeepEnds rest with
        | [] => [[char]]
        | line :: lines => (char :: line) :: lines

/-- `_FENCE_LINE_RE` on a line without its end: the marker, and what follows it. -/
def matchFenceLine (line : List Char) : Option (List Char × List Char) :=
  let text := line.rdropWhile fun char => char == '\r' || char == '\n'
  let (indent, rest) := spanClass (· == ' ') text
  if 3 < indent.length then none
  else
    match rest.head? with
    | some char =>
        if char = '`' ∨ char = '~' then
          let (marker, info) := spanClass (· == char) rest
          if marker.length < 3 then none else some (marker, info)
        else none
    | none => none

/-- `_fence_marker`: the character of a fence, and its length. -/
def fenceMarker (line : List Char) : Option (Char × Nat) :=
  (matchFenceLine line).bind fun (marker, _) => marker.head?.map fun char => (char, marker.length)

/-- `_closes_fence`. -/
def closesFence (line : List Char) (fence openFence : Char × Nat) : Bool :=
  match matchFenceLine line with
  | none => false
  | some (_, info) => fence.1 == openFence.1 && openFence.2 ≤ fence.2 && (strip info).isEmpty

/-- The fence that is open after a line. -/
def fenceAfter (openFence : Option (Char × Nat)) (line : List Char) : Option (Char × Nat) :=
  match openFence, fenceMarker line with
  | none, fence => fence
  | some openFence, some fence => if closesFence line fence openFence then none else some openFence
  | some openFence, none => some openFence

/-- The loop of `_neutralize_lark_mentions`: lines of a fenced block, and its fences, are kept. -/
def neutralizeLines : (openFence : Option (Char × Nat)) → List (List Char) → List (List Char)
  | _, [] => []
  | openFence, line :: lines =>
      (if openFence.isSome ∨ (fenceMarker line).isSome then line else neutralizeInlineMentions
        line) ::
        neutralizeLines (fenceAfter openFence line) lines

/-- `_neutralize_lark_mentions`. -/
def neutralizeLarkMentions (markdown : List Char) : List Char :=
  (neutralizeLines none (splitLinesKeepEnds markdown)).flatten

/-- `_unclosed_fence`. -/
def unclosedFence (markdown : List Char) : Option (Char × Nat) :=
  (splitLinesKeepEnds markdown).foldl fenceAfter none

/-- `_truncate_markdown`. -/
def truncateMarkdown (text : List Char) (limit : Nat) : List Char :=
  if text.length ≤ limit then text
  else if limit ≤ 3 then text.take limit
  else
    let ellipsis := "...".toList
    let shortened := text.take (limit - ellipsis.length)
    match unclosedFence shortened with
    | none => shortened ++ ellipsis
    | some openFence =>
        let closingFence := '\n' :: List.replicate openFence.2 openFence.1
        if limit ≤ ellipsis.length + closingFence.length then text.take limit
        else
          let shortened := text.take (limit - ellipsis.length - closingFence.length)
          match unclosedFence shortened with
          | none => shortened ++ ellipsis
          | some openFence =>
              shortened ++ ellipsis ++ '\n' :: List.replicate openFence.2 openFence.1

/-- The lines of a text, with their ends, are the text. -/
theorem splitLinesKeepEnds_flatten (text : List Char) :
    (splitLinesKeepEnds text).flatten = text := by
  induction text using splitLinesKeepEnds.induct with
  | case1 => rfl
  | case2 rest ih =>
      rw [splitLinesKeepEnds, List.flatten_cons, ih, List.cons_append, List.singleton_append]
  | case3 char rest other boundary ih =>
      rw [splitLinesKeepEnds.eq_3 char rest other, if_pos boundary, List.flatten_cons, ih]
      rfl
  | case4 char rest other inside ended ih =>
      rw [splitLinesKeepEnds.eq_3 char rest other, if_neg inside, ended]
      rw [ended] at ih
      rw [← ih]
      rfl
  | case5 char rest other inside line lines split ih =>
      rw [splitLinesKeepEnds.eq_3 char rest other, if_neg inside, split]
      rw [split, List.flatten_cons] at ih
      rw [List.flatten_cons, List.cons_append, ih]

/-- Neutralizing line by line rewrites tags. -/
theorem neutralizeLines_rewrites (lines : List (List Char)) (openFence : Option (Char × Nat)) :
    List.Forall₂ (Rewritten EscapesTag) lines (neutralizeLines openFence lines) := by
  induction lines generalizing openFence with
  | nil => exact .nil
  | cons line rest ih =>
      unfold neutralizeLines
      refine .cons ?_ (ih _)
      split
      · exact .refl line
      · exact neutralizeInlineMentions_rewrites line

/-- Neutralizing Markdown rewrites tags. -/
theorem neutralizeLarkMentions_rewrites (markdown : List Char) :
    Rewritten EscapesTag markdown (neutralizeLarkMentions markdown) := by
  have rewritten := Rewritten.flatten (neutralizeLines_rewrites (splitLinesKeepEnds markdown) none)
  rwa [splitLinesKeepEnds_flatten] at rewritten

end Fences

end LarkBot
