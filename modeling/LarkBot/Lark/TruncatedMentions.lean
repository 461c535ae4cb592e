import LarkBot.Lark.CodeSpans
import LarkBot.Lark.Truncation

/-! # Mentions in truncated Markdown

A card is neutralized before it is cut. The lines before the cut are not rewritten again
(`LarkBot.LineScan.neutralize_split`), and neither is the last one if a fence covers it. Of the runs
of backticks in it the cut leaves all but the last as they were, so they are paired as before, and
what was outside of them then is still neutral. Only a tag behind the last pair is rewritten: the
cut took the run that closed its code (`LarkBot.truncation_keeps_neutral_iff`).
-/

namespace LarkBot

open Foundation

section Runs

/-- Where the last pair of runs ends, or the cursor. -/
def pairsEnd : (cursor skipped : Nat) → List BacktickRun → Nat
  | cursor, _, [] => cursor
  | cursor, skipped + 1, _ :: rest => pairsEnd cursor skipped rest
  | cursor, 0, opening :: rest =>
      match closingRun opening.length rest with
      | none => cursor
      | some (closing, before) => pairsEnd closing.stop (before + 1) rest

/-- The runs inside the last pair are skipped. -/
theorem pairsEnd_drop (cursor skipped : Nat) (runs : List BacktickRun) :
    pairsEnd cursor skipped runs = pairsEnd cursor 0 (runs.drop skipped) := by
  induction skipped generalizing runs with
  | zero => rfl
  | succ skipped ih =>
      cases runs with
      | nil => rfl
      | cons run rest => exact ih rest

/-- At a run that nothing closes the pairs are at their end. -/
theorem pairsEnd_literal {cursor : Nat} {run : BacktickRun} {rest : List BacktickRun}
    (unclosed : closingRun run.length rest = none) : pairsEnd cursor 0 (run :: rest) = cursor := by
  unfold pairsEnd
  rw [unclosed]

/-- A pair of runs moves the end to where it closes. -/
theorem pairsEnd_paired {cursor before : Nat} {opening closing : BacktickRun}
    {rest : List BacktickRun}
    (found : closingRun opening.length rest = some (closing, before)) :
    pairsEnd cursor 0 (opening :: rest) = pairsEnd closing.stop 0 (rest.drop (before + 1)) := by
  rw [← pairsEnd_drop]
  conv => lhs; unfold pairsEnd
  rw [found]

/-- The run that closes another does so whatever runs come later. -/
theorem closingRun_append {length : Nat} {first : List BacktickRun} {pair : BacktickRun × Nat}
    (found : closingRun length first = some pair) (second : List BacktickRun) :
    closingRun length (first ++ second) = some pair := by
  induction first generalizing pair with
  | nil => cases found
  | cons run rest ih =>
      rw [List.cons_append]
      unfold closingRun at found ⊢
      split at found
      next same => rw [if_pos same, found]
      next other =>
        obtain ⟨later, inside, same⟩ := Option.map_eq_some_iff.mp found
        rw [if_neg other, ih inside, Option.map_some, same]

/-- A run that closes is an earlier one, or the last. -/
theorem closingRun_concat {length before : Nat} {first : List BacktickRun}
    {last closing : BacktickRun}
    (found : closingRun length (first ++ [last]) = some (closing, before)) :
    closingRun length first = some (closing, before) ∨ before = first.length := by
  induction first generalizing before with
  | nil =>
      rw [List.nil_append] at found
      unfold closingRun at found
      split at found
      next =>
        cases found
        exact .inr rfl
      next => cases found
  | cons run rest ih =>
      rw [List.cons_append] at found
      unfold closingRun at found ⊢
      split at found
      next same =>
        rw [if_pos same]
        exact .inl found
      next other =>
        obtain ⟨⟨later, count⟩, inside, same⟩ := Option.map_eq_some_iff.mp found
        cases same
        rw [if_neg other]
        rcases ih inside with earlier | whole
        · rw [earlier]
          exact .inl rfl
        · exact .inr (by rw [whole, List.length_cons])

/-- The closing run is one of the list. -/
theorem closingRun_before_lt {length before : Nat} {runs : List BacktickRun} {closing : BacktickRun}
    (found : closingRun length runs = some (closing, before)) : before < runs.length := by
  have rest := closingRun_spec found
  by_contra outside
  rw [List.drop_eq_nil_of_le (Nat.le_of_not_lt outside)] at rest
  cases rest

/-- What follows a text leaves its runs as they are, but for the last one. -/
theorem backtickRuns_shared (text more : List Char) (index count : Nat) :
    ∃ shared later, backtickRuns index count (text ++ more) = shared ++ later ∧
      (backtickRuns index count text = shared ∨
        ∃ last, backtickRuns index count text = shared ++ [last]) := by
  induction text generalizing index count with
  | nil =>
      refine ⟨[], backtickRuns index count more, rfl, ?_⟩
      unfold backtickRuns
      split
      · exact .inl rfl
      · exact .inr ⟨_, rfl⟩
  | cons char rest ih =>
      rw [List.cons_append]
      simp only [backtickRuns]
      split
      · exact ih (index + 1) (count + 1)
      · obtain ⟨shared, later, whole, part⟩ := ih (index + 1) 0
        refine ⟨(if count = 0 then [] else [⟨index - count, count⟩]) ++ shared, later, ?_, ?_⟩
        · rw [whole, List.append_assoc]
        · rcases part with same | ⟨last, same⟩
          · exact .inl (by rw [same])
          · exact .inr ⟨last, by rw [same, List.append_assoc]⟩

end Runs

section Lines

variable {line more : List Char}

/-- The last pair does not end before the cursor. -/
theorem pairsEnd_ge (cursor : Nat) (runs : List BacktickRun) (runsIn : RunsIn line cursor runs) :
    cursor ≤ pairsEnd cursor 0 runs := by
  induction cursor, runs using pairs_induction with
  | nil cursor => exact Nat.le_refl cursor
  | literal cursor run rest unclosed => rw [pairsEnd_literal unclosed]
  | paired cursor opening rest closing before found ih =>
      obtain ⟨opens, _, closes, remaining⟩ := runsIn.closing found
      rw [pairsEnd_paired found]
      exact (opens.trans closes).trans (ih remaining)

/-- What has no tag left is neutralized to itself. -/
theorem neutralizeSpans_of_not_contains {cursor : Nat} {runs : List BacktickRun}
    (runsIn : RunsIn line cursor runs) (none : ¬ ContainsAtTag (line.drop cursor)) :
    neutralizeSpans line cursor 0 runs = line.drop cursor := by
  have rewritten := runsIn.rewritten
  have same : EscapesTag = EntitiesForTag := funext₂ fun piece result => propext escapesTag_iff
  rw [same] at rewritten
  exact eq_of_rewritten rewritten none

/-- What remains of the runs of a line whose end was cut: all of them, or all with a last one that
the cut may have shortened. -/
def Remains (shared runs : List BacktickRun) : Prop :=
  runs = shared ∨ ∃ last, runs = shared ++ [last]

/-- After the first run of a cut line, if others follow, the rest remains of the rest. -/
theorem Remains.tail {shared rest : List BacktickRun} {opening : BacktickRun}
    (remains : Remains shared (opening :: rest)) (goesOn : rest ≠ []) :
    ∃ later, shared = opening :: later ∧ Remains later rest := by
  rcases remains with rfl | ⟨last, same⟩
  · exact ⟨rest, rfl, .inl rfl⟩
  · cases shared with
    | nil => exact (goesOn (List.cons.inj same).2).elim
    | cons first shared =>
        obtain ⟨rfl, rfl⟩ := List.cons.inj same
        exact ⟨shared, rfl, .inr ⟨last, rfl⟩⟩

/-- A run that closes in a cut line closes in the whole line as well, or was the last
one left. -/
theorem Remains.closing {length before : Nat} {shared rest : List BacktickRun}
    {closing : BacktickRun}
    (remains : Remains shared rest) (found : closingRun length rest = some (closing, before)) :
    (closingRun length shared = some (closing, before) ∧
        Remains (shared.drop (before + 1)) (rest.drop (before + 1))) ∨
      rest.drop (before + 1) = [] := by
  rcases remains with rfl | ⟨last, rfl⟩
  · exact .inl ⟨found, .inl rfl⟩
  · rcases closingRun_concat found with earlier | whole
    · have inside := closingRun_before_lt earlier
      exact .inl ⟨earlier, .inr ⟨last, List.drop_append_of_le_length inside⟩⟩
    · right
      rw [whole, List.drop_eq_nil_iff, List.length_append, List.length_singleton]

/-- If pairing rewrites nothing in a line, it rewrites nothing before its cut, unless a tag remains
behind the last pair. -/
theorem neutralizeSpans_cut_iff (cursor : Nat) (runs : List BacktickRun) :
    ∀ shared later, Remains shared runs → RunsIn line cursor runs →
      RunsIn (line ++ more) cursor (shared ++ later) →
        neutralizeSpans (line ++ more) cursor 0 (shared ++ later) = (line ++ more).drop cursor →
          (neutralizeSpans line cursor 0 runs = line.drop cursor ↔
            ¬ ContainsAtTag (line.drop (pairsEnd cursor 0 runs))) := by
  induction cursor, runs using pairs_induction with
  | nil cursor => exact fun _ _ _ _ _ _ => escapeLarkAtTags_eq_self_iff
  | literal cursor run rest unclosed =>
      intro _ _ _ _ _ _
      rw [neutralizeSpans_literal unclosed, pairsEnd_literal unclosed]
      exact escapeLarkAtTags_eq_self_iff
  | paired cursor opening rest closing before found ih =>
      intro shared later remains runsIn longer kept
      obtain ⟨shared, rfl, tails⟩ := remains.tail (by rintro rfl; cases found)
      rw [List.cons_append] at longer kept
      obtain ⟨opens, _, closes, remaining⟩ := runsIn.closing found
      have bounded := runsIn.start_le List.mem_cons_self
      have whole : (line ++ more).drop cursor = line.drop cursor ++ more :=
        List.drop_append_of_le_length runsIn.inside
      cases paired : closingRun opening.length (shared ++ later) with
      | none =>
          -- The longer line is all neutral from the cursor on.
          rw [neutralizeSpans_literal paired, whole, escapeLarkAtTags_eq_self_iff] at kept
          have none : ¬ ContainsAtTag (line.drop cursor) := fun contains =>
            kept (contains.of_infix (List.prefix_append _ _).isInfix)
          have after := pairsEnd_ge cursor _ runsIn
          refine ⟨fun _ contains => none (contains.of_infix ?_),
            fun _ => neutralizeSpans_of_not_contains runsIn none⟩
          rw [← Nat.add_sub_cancel' after, ← List.drop_drop]
          exact (List.drop_suffix _ _).isInfix
      | some pair =>
          obtain ⟨_, _, ends, _⟩ := longer.closing paired
          rw [neutralizeSpans_paired paired, ← slice_append opens, ← slice_append ends] at kept
          obtain ⟨head, tail⟩ := (partlyEscaped_escapeLarkAtTags cursor _).cancel kept
          have following := List.append_cancel_left tail
          rw [slice_append_left more bounded] at head
          rw [neutralizeSpans_paired found, pairsEnd_paired found, ← slice_append opens,
            ← slice_append closes, head, List.append_right_inj, List.append_right_inj]
          rcases tails.closing found with ⟨earlier, after⟩ | last
          · have inside := closingRun_before_lt earlier
            have same := closingRun_append earlier later
            rw [paired] at same
            cases same
            rw [List.drop_append_of_le_length inside] at following
            obtain ⟨_, _, _, beyond⟩ := longer.closing paired
            rw [List.drop_append_of_le_length inside] at beyond
            exact ih _ later after remaining beyond following
          · rw [last]
            exact escapeLarkAtTags_eq_self_iff

/-- Where the last pair of the runs of a line ends that do not look escaped. -/
def codeEnd (line : List Char) : Nat := pairsEnd 0 0 (plainRuns line)

/-- The runs that the renderer pairs lie in the line. -/
theorem runsIn_plainRuns (line : List Char) : RunsIn line 0 (plainRuns line) :=
  (runsIn_backtickRuns line).plainOnes

/-- Cutting the end off a line leaves its runs but may shorten the last one that remains. -/
theorem plainRuns_shared (line more : List Char) :
    ∃ shared later, plainRuns (line ++ more) = shared ++ later ∧
      Remains shared (plainRuns line) := by
  obtain ⟨shared, later, whole, part⟩ := backtickRuns_shared line more 0 0
  have alike : ∀ run ∈ backtickRuns 0 0 line,
      (!isEscaped (line ++ more) run.start) = !isEscaped line run.start := by
    intro run member
    rw [isEscaped_append more ((runsIn_backtickRuns line).start_le member)]
  refine ⟨shared.filter fun run => !isEscaped line run.start,
    later.filter fun run => !isEscaped (line ++ more) run.start, ?_, ?_⟩
  · unfold plainRuns
    rw [whole, List.filter_append]
    refine congrArg₂ _ (List.filter_congr fun run member => alike run ?_) rfl
    rcases part with same | ⟨last, same⟩
    · rw [same]
      exact member
    · rw [same]
      exact List.mem_append_left _ member
  · unfold plainRuns
    rcases part with same | ⟨last, same⟩
    · rw [same]
      exact .inl rfl
    · rw [same, List.filter_append]
      by_cases behind : isEscaped line last.start
      · left
        rw [List.filter_cons_of_neg (by rw [behind]; exact Bool.false_ne_true), List.filter_nil,
          List.append_nil]
      · right
        exact ⟨last, by rw [List.filter_cons_of_pos (by rw [Bool.eq_false_iff.mpr behind]; rfl),
          List.filter_nil]⟩

/-- The beginning of a neutral line is neutral unless a tag remains behind its last pair of runs. -/
theorem neutralizeInlineMentions_cut_iff
    (kept : neutralizeInlineMentions (line ++ more) = line ++ more) :
    neutralizeInlineMentions line = line ↔ ¬ ContainsAtTag (line.drop (codeEnd line)) := by
  obtain ⟨shared, later, whole, remains⟩ := plainRuns_shared line more
  have longer := runsIn_plainRuns (line ++ more)
  change neutralizeSpans (line ++ more) 0 0 (plainRuns (line ++ more)) = _ at kept
  rw [whole] at kept longer
  exact neutralizeSpans_cut_iff 0 (plainRuns line) shared later remains (runsIn_plainRuns line)
    longer kept

end Lines

namespace LineScan

variable {scan : LineScan}

/-- A neutralized line reads like the line, with brackets escaped. -/
theorem partlyEscaped_neutralized (scan : LineScan) (position : Nat) :
    PartlyEscaped position scan.line scan.neutralized := by
  unfold neutralized neutralizeText
  split
  · exact .refl position _
  · exact partlyEscaped_of_rewritten (runsIn_plainRuns scan.line).rewritten position

/-- The lines that a text ends are rewritten whatever follows. -/
theorem neutralize_split (scan : LineScan) (text : List Char) :
    ∃ finished settled, (∀ rest, scan.neutralize (text ++ rest) =
        settled ++ (scan.read text).neutralize rest) ∧
      scan.line ++ text = finished ++ (scan.read text).line ∧
      ∀ position, PartlyEscaped position finished settled := by
  induction text generalizing scan with
  | nil => exact ⟨[], [], fun _ => rfl, List.append_nil _, fun position => .nil position⟩
  | cons char text ih =>
      by_cases boundary : isLineBoundary char
      · obtain ⟨finished, settled, splits, lines, escaped⟩ := ih scan.nextLine
        have next : scan.read (char :: text) = scan.nextLine.read text := by
          change (scan.feed char).read text = _
          rw [scan.feed_boundary boundary]
        rw [next]
        refine ⟨scan.line ++ char :: finished, scan.neutralized ++ char :: settled,
          fun rest => ?_, ?_,
          fun position => (scan.partlyEscaped_neutralized position).append (.keep char (escaped _))⟩
        · rw [List.cons_append, scan.neutralize_boundary boundary, splits rest]
          simp only [List.append_assoc, List.cons_append]
        · have following : text = finished ++ (scan.nextLine.read text).line := lines
          conv => lhs; rw [following]
          simp only [List.append_assoc, List.cons_append]
      · obtain ⟨_, line⟩ := scan.feed_line (Bool.eq_false_iff.mpr boundary)
        obtain ⟨finished, settled, splits, lines, escaped⟩ := ih (scan.feed char)
        refine ⟨finished, settled, fun rest => ?_, ?_, escaped⟩
        · rw [List.cons_append, scan.neutralize_line boundary]
          exact splits rest
        · rw [line, List.append_assoc, List.singleton_append] at lines
          exact lines

/-- Where nothing more is rewritten, the line so far is the beginning of one that is neutral. -/
theorem neutralizeText_of_neutralize (scan : LineScan) (rest : List Char)
    (same : scan.neutralize rest = scan.line ++ rest) :
    ∃ more, neutralizeText scan.openFence (scan.line ++ more) = scan.line ++ more := by
  induction rest generalizing scan with
  | nil => exact ⟨[], by rw [List.append_nil] at same ⊢; exact same⟩
  | cons char rest ih =>
      by_cases boundary : isLineBoundary char
      · rw [scan.neutralize_boundary boundary] at same
        have here := ((scan.partlyEscaped_neutralized 0).cancel same).1
        exact ⟨[], by rw [List.append_nil]; exact here⟩
      · obtain ⟨fence, line⟩ := scan.feed_line (Bool.eq_false_iff.mpr boundary)
        rw [scan.neutralize_line boundary] at same
        obtain ⟨more, kept⟩ := ih (scan.feed char) (by
          rw [line, List.append_assoc, List.singleton_append]
          exact same)
        rw [fence, line, List.append_assoc, List.singleton_append] at kept
        exact ⟨char :: more, kept⟩

/-- A line that opens a fence only when it goes on has no tag. -/
theorem not_containsAtTag_of_opens {line more : List Char} {fence : Char × Nat}
    (opened : fenceAfterText none (line ++ more) = some fence)
    (closed : fenceAfterText none line = none) :
    ¬ ContainsAtTag line := by
  obtain ⟨⟨marks, long⟩, _, info, matched⟩ := fenceAfterText_opening opened
  obtain ⟨indent, char, split, spaces, shallow, _, _, same, stops⟩ := matchFenceText_marker matched
  rw [List.length_replicate] at same
  have sameChar : fence.1 = char := by
    have member : fence.1 ∈ List.replicate fence.2 char := by
      rw [← same]
      exact List.mem_replicate.mpr ⟨by omega, rfl⟩
    exact List.eq_of_mem_replicate member
  rw [← List.append_assoc] at split
  rcases List.append_eq_append_iff.mp split with ⟨rest, covers, _⟩ | ⟨rest, rfl, rfl⟩
  · rintro ⟨tag, tagged, inside⟩
    obtain ⟨inner, _, rfl⟩ := tagged
    have member : '<' ∈ indent ++ List.replicate fence.2 fence.1 := by
      rw [covers]
      exact List.mem_append_left _ (inside.subset List.mem_cons_self)
    rcases List.mem_append.mp member with early | late
    · exact absurd (spaces '<' early) (by decide)
    · have mark := List.eq_of_mem_replicate late
      rcases marks with backtick | tilde
      · rw [backtick] at mark
        exact absurd mark (by decide)
      · rw [tilde] at mark
        exact absurd mark (by decide)
  · have ended : StopsAt (· == fence.1) rest := by
      rw [sameChar]
      cases rest with
      | nil => exact stopsAt_nil
      | cons first rest => exact stops
    have again := matchFenceText_of spaces shallow marks long ended
    rw [← List.append_assoc] at again
    unfold fenceAfterText at closed
    rw [again] at closed
    dsimp only at closed
    rw [markerFence_replicate (by omega)] at closed
    cases closed

/-- The line at the cut of a neutral text is neutral, unless no fence covers it and a tag remains
behind its last pair of runs. -/
theorem neutralized_iff {rest : List Char} (same : scan.neutralize rest = scan.line ++ rest) :
    scan.neutralized = scan.line ↔ scan.openFence.isSome ∨ scan.fence.isSome ∨
      ¬ ContainsAtTag (scan.line.drop (codeEnd scan.line)) := by
  obtain ⟨more, kept⟩ := scan.neutralizeText_of_neutralize rest same
  unfold neutralized
  cases unfenced : scan.openFence with
  | some fence =>
      unfold neutralizeText
      rw [if_pos (.inl rfl)]
      exact ⟨fun _ => .inl rfl, fun _ => rfl⟩
  | none =>
      have opens : scan.fence = fenceAfterText none scan.line := by
        unfold LineScan.fence
        rw [unfenced]
      rw [unfenced] at kept
      cases opened : fenceAfterText none scan.line with
      | some fence =>
          unfold neutralizeText
          rw [opened, if_pos (.inr rfl), opens, opened]
          exact ⟨fun _ => .inr (.inl rfl), fun _ => rfl⟩
      | none =>
          have never : ¬ ((none : Option (Char × Nat)).isSome ∨
              (none : Option (Char × Nat)).isSome) := by
            rintro (absent | absent) <;> cases absent
          have inline : neutralizeText none scan.line = neutralizeInlineMentions scan.line := by
            unfold neutralizeText
            rw [opened, if_neg never]
          rw [inline, opens, opened]
          unfold neutralizeText at kept
          split at kept
          next covered =>
            have opening := Option.isSome_iff_exists.mp (covered.resolve_left Bool.false_ne_true)
            have none := not_containsAtTag_of_opens opening.choose_spec opened
            refine ⟨fun _ => .inr (.inr fun contains => none ?_), fun _ => ?_⟩
            · exact contains.of_infix (List.drop_suffix _ _).isInfix
            · exact neutralizeSpans_of_not_contains (runsIn_plainRuns scan.line) none
          next =>
            rw [neutralizeInlineMentions_cut_iff kept]
            refine ⟨fun none => .inr (.inr none), fun covered => ?_⟩
            rcases covered with absent | absent | none
            · cases absent
            · cases absent
            · exact none

end LineScan

section Truncated

/-- What is kept of a text, without the ellipsis and the closing fence. -/
def keptText (text : List Char) (limit : Nat) : List Char :=
  if Abridged text limit then cutText text limit else text.take limit

/-- At the cut a fence is open, or the line opens or closes one, or no tag remains behind the last
pair of the runs of the line. -/
def CutSparesTags (text : List Char) (limit : Nat) : Prop :=
  let scan := LineScan.start.read (keptText text limit)
  scan.openFence.isSome ∨ scan.fence.isSome ∨ ¬ ContainsAtTag (scan.line.drop (codeEnd scan.line))

instance (text : List Char) (limit : Nat) : Decidable (CutSparesTags text limit) :=
  inferInstanceAs (Decidable (_ ∨ _ ∨ _))

/-- What is appended to a cut text. -/
def cutEnding (text : List Char) (limit : Nat) : List Char :=
  if Abridged text limit then ellipsis ++ (unclosedFence (cutText text limit)).elim [] fenceLine
    else []

/-- A truncated text is a start of the text with the ending appended. -/
theorem truncateMarkdown_kept (text : List Char) (limit : Nat) :
    truncateMarkdown text limit = keptText text limit ++ cutEnding text limit ∧
      ∃ rest, text = keptText text limit ++ rest := by
  unfold keptText cutEnding
  by_cases abridged : Abridged text limit
  · rw [if_pos abridged, if_pos abridged]
    exact ⟨truncateMarkdown_abridged abridged, _, (List.take_append_drop _ text).symm⟩
  · rw [if_neg abridged, if_neg abridged, List.append_nil]
    exact ⟨truncateMarkdown_bare abridged, _, (List.take_append_drop _ text).symm⟩

namespace LineScan

variable {scan : LineScan}

/-- A text without the end of a line is neutralized with its line. -/
theorem neutralize_unbroken (scan : LineScan) {text : List Char} (unbroken : Unbroken text)
    (rest : List Char) : scan.neutralize (text ++ rest) = (scan.read text).neutralize rest := by
  induction text generalizing scan with
  | nil => rfl
  | cons char text ih =>
      have inside := unbroken char List.mem_cons_self
      rw [List.cons_append, scan.neutralize_line (Bool.eq_false_iff.mp inside)]
      exact ih (scan.feed char) fun other member => unbroken other (List.mem_cons_of_mem _ member)

/-- The ellipsis has no bearing on code spans and tags. -/
theorem inlinePlain_ellipsis : InlinePlain ellipsis := by
  refine ⟨?_, ?_⟩ <;> decide

/-- An ellipsis is kept apart from the line before it. -/
theorem neutralized_ellipsis (scan : LineScan) :
    (scan.read ellipsis).neutralized = scan.neutralized ++ ellipsis := by
  obtain ⟨fence, line⟩ := scan.read_unbroken unbroken_ellipsis
  unfold neutralized neutralizeText
  rw [fence, line, fenceAfterText_none_ellipsis]
  split
  · rfl
  · exact neutralizeInlineMentions_append scan.line inlinePlain_ellipsis

/-- The marker of a fence has no end of a line. -/
theorem unbroken_markers {fence : Char × Nat} (valid : IsFence fence) :
    Unbroken (List.replicate fence.2 fence.1) := by
  intro char member
  rw [List.eq_of_mem_replicate member]
  rcases valid.1 with same | same <;> rw [same] <;> decide

/-- A line in a fence is kept. -/
theorem neutralize_fenceLine (scan : LineScan) {fence : Char × Nat} (valid : IsFence fence)
    (opened : scan.fence.isSome) :
    scan.neutralize (fenceLine fence) = scan.neutralized ++ fenceLine fence := by
  have boundary : isLineBoundary '\n' = true := by decide
  have unbroken := unbroken_markers valid
  obtain ⟨before, line⟩ := scan.nextLine.read_unbroken unbroken
  have kept := scan.nextLine.neutralize_unbroken unbroken []
  rw [List.append_nil] at kept
  unfold fenceLine
  rw [scan.neutralize_boundary boundary, kept]
  congr 2
  change neutralizeText _ _ = _
  rw [before, line]
  unfold neutralizeText
  rw [if_pos (.inl opened)]
  rfl

/-- What is appended to a cut text is not rewritten, and neither does it change what is. -/
theorem neutralize_ending (scan : LineScan) :
    scan.neutralize (ellipsis ++ scan.fence.elim [] fenceLine) =
      scan.neutralized ++ (ellipsis ++ scan.fence.elim [] fenceLine) := by
  rw [scan.neutralize_unbroken unbroken_ellipsis, ← List.append_assoc, ← neutralized_ellipsis]
  cases opened : scan.fence with
  | none =>
      rw [Option.elim_none, List.append_nil]
      rfl
  | some fence =>
      apply neutralize_fenceLine _ (scan.fence_isFence fence opened)
      rw [read_ellipsis_fence, opened]
      cases scan.openFence <;> rfl

end LineScan

/-- What is appended to a cut text changes nothing in what was neutralized before it. -/
theorem neutralize_cutEnding (text : List Char) (limit : Nat) :
    (LineScan.start.read (keptText text limit)).neutralize (cutEnding text limit) =
      (LineScan.start.read (keptText text limit)).neutralized ++ cutEnding text limit := by
  unfold cutEnding keptText
  by_cases abridged : Abridged text limit
  · rw [if_pos abridged, if_pos abridged, unclosedFence_eq]
    exact LineScan.neutralize_ending _
  · rw [if_neg abridged, if_neg abridged, List.append_nil]
    rfl

/-- A neutral text stays neutral when it is truncated exactly when the cut spares its tags: a
fence covers the line at the cut, or no tag remains in it behind the last pair of its runs. -/
theorem truncation_keeps_neutral_iff {text : List Char} (limit : Nat)
    (neutral : neutralizeLarkMentions text = text) :
    neutralizeLarkMentions (truncateMarkdown text limit) = truncateMarkdown text limit ↔
      CutSparesTags text limit := by
  obtain ⟨truncated, rest, whole⟩ := truncateMarkdown_kept text limit
  obtain ⟨finished, settled, splits, lines, escaped⟩ :=
    LineScan.start.neutralize_split (keptText text limit)
  have kept : keptText text limit =
      finished ++ (LineScan.start.read (keptText text limit)).line := lines
  rw [neutralizeLarkMentions_eq] at neutral
  conv at neutral => rw [whole]
  rw [splits rest] at neutral
  conv at neutral => rhs; rw [kept, List.append_assoc]
  obtain ⟨rfl, same⟩ := (escaped 0).cancel neutral
  unfold CutSparesTags
  rw [← LineScan.neutralized_iff same, truncated, neutralizeLarkMentions_eq, splits,
    neutralize_cutEnding]
  conv => lhs; rhs; rw [kept, List.append_assoc]
  rw [List.append_right_inj, List.append_left_inj]

/-- A tag whose code is kept as a whole stays neutral. -/
theorem whole_code_stays_neutral :
    neutralizeLarkMentions (truncateMarkdown "`<at>` and more".toList 12) =
      truncateMarkdown "`<at>` and more".toList 12 :=
  (truncation_keeps_neutral_iff 12 (by decide)).mpr (by decide)

/-- A cut before the run that closes its code turns a tag into a live one. -/
theorem cut_code_goes_live :
    ¬ ∀ (text : List Char) (limit : Nat), neutralizeLarkMentions text = text →
      neutralizeLarkMentions (truncateMarkdown text limit) = truncateMarkdown text limit := by
  intro keeps
  have neutral : neutralizeLarkMentions "`<at>` and more".toList = "`<at>` and more".toList := by
    decide
  have rewritten : neutralizeLarkMentions (truncateMarkdown "`<at>` and more".toList 8) ≠
      truncateMarkdown "`<at>` and more".toList 8 := by
    decide
  exact rewritten (keeps _ 8 neutral)

end Truncated

end LarkBot
