import LarkBot.Lark.EscapedPositions

/-! # Code spans

The inline code of a line, as CommonMark pairs its runs of backticks (`LarkBot.commonMarkSpans`),
beside the pairing of the renderer. The renderer leaves out every run that looks escaped, also
inside a span, and gives up at the first run that nothing closes. Where no tag goes on after the
start of a span whose closing run looks escaped, it neutralizes a line as CommonMark has it exactly
when no tag has a bracket in a span after such a run (`LarkBot.neutralizes_line_iff`).
-/

namespace LarkBot

open Foundation

section Spans

/-- The runs that open and close a code span. -/
structure CodeSpan where
  opening : BacktickRun
  closing : BacktickRun
  deriving DecidableEq, Repr

/-- The code spans of a line in CommonMark, from left to right. A run that is not escaped opens a
span, and the next run of its length closes it, whatever stands before that run; a run that nothing
closes is literal. The next `skipped` runs are inside the last span. -/
def codeSpans (line : List Char) : (skipped : Nat) → List BacktickRun → List CodeSpan
  | _, [] => []
  | skipped + 1, _ :: rest => codeSpans line skipped rest
  | 0, opening :: rest =>
      if isEscaped line opening.start then codeSpans line 0 rest
      else
        match closingRun opening.length rest with
        | none => codeSpans line 0 rest
        | some (closing, before) => ⟨opening, closing⟩ :: codeSpans line (before + 1) rest

def commonMarkSpans (line : List Char) : List CodeSpan := codeSpans line 0 (backtickRuns 0 0 line)

variable {line : List Char}

/-- The runs inside the last span are skipped. -/
theorem codeSpans_drop (skipped : Nat) (runs : List BacktickRun) :
    codeSpans line skipped runs = codeSpans line 0 (runs.drop skipped) := by
  induction skipped generalizing runs with
  | zero => rfl
  | succ skipped ih =>
      cases runs with
      | nil => rfl
      | cons run rest => exact ih rest

/-- A run that is escaped opens no span. -/
theorem codeSpans_escaped {run : BacktickRun} (rest : List BacktickRun)
    (escaped : isEscaped line run.start) : codeSpans line 0
    (run :: rest) = codeSpans line 0 rest := by
  conv => lhs; unfold codeSpans
  rw [if_pos escaped]

/-- A run that nothing closes is literal. -/
theorem codeSpans_literal {run : BacktickRun} {rest : List BacktickRun}
    (plain : ¬ isEscaped line run.start) (unclosed : closingRun run.length rest = none) :
    codeSpans line 0 (run :: rest) = codeSpans line 0 rest := by
  conv => lhs; unfold codeSpans
  rw [if_neg plain, unclosed]

/-- A run opens a span up to the next run of its length, and the runs after that one go
on. -/
theorem codeSpans_paired {opening closing : BacktickRun} {rest : List BacktickRun} {before : Nat}
    (plain : ¬ isEscaped line opening.start)
    (found : closingRun opening.length rest = some (closing, before)) :
    codeSpans line 0 (opening :: rest) =
      ⟨opening, closing⟩ :: codeSpans line 0 (rest.drop (before + 1)) := by
  rw [← codeSpans_drop]
  conv => lhs; unfold codeSpans
  rw [if_neg plain, found]

variable (line) in
/-- Runs are read as they are paired: escaped, literal, or with the run that closes the span. -/
theorem codeSpans_induction {motive : Nat → List BacktickRun → Prop}
    (nil : ∀ cursor, motive cursor [])
    (escaped : ∀ cursor run rest, isEscaped line run.start → motive cursor rest →
      motive cursor (run :: rest))
    (literal : ∀ cursor run rest, ¬ isEscaped line run.start → closingRun run.length rest = none →
      motive cursor rest → motive cursor (run :: rest))
    (paired : ∀ cursor opening rest closing before, ¬ isEscaped line opening.start →
      closingRun opening.length rest = some (closing, before) →
      motive closing.stop (rest.drop (before + 1)) → motive cursor (opening :: rest))
    (cursor : Nat) (runs : List BacktickRun) : motive cursor runs := by
  induction size : runs.length using Nat.strongRecOn generalizing cursor runs with
  | _ size ih =>
      subst size
      cases runs with
      | nil => exact nil cursor
      | cons run rest =>
          by_cases behind : isEscaped line run.start
          · exact escaped cursor run rest behind (ih _ (Nat.lt_succ_self _) cursor rest rfl)
          · cases found : closingRun run.length rest with
            | none =>
                exact literal cursor run rest behind found
                  (ih _ (Nat.lt_succ_self _) cursor rest rfl)
            | some pair =>
                refine paired cursor run rest pair.1 pair.2 behind found (ih _ ?_ _ _ rfl)
                rw [List.length_drop, List.length_cons]
                omega

/-- A span is made of two runs in order. -/
theorem codeSpans_inside (cursor : Nat) (runs : List BacktickRun) (ordered : RunsFrom cursor runs) :
    ∀ span ∈ codeSpans line 0 runs, cursor ≤ span.opening.start ∧
      span.opening.stop ≤ span.closing.start ∧ span.opening ∈ runs ∧ span.closing ∈ runs := by
  induction cursor, runs using codeSpans_induction line with
  | nil cursor => exact fun span absent => by cases absent
  | escaped cursor run rest behind ih =>
      intro span member
      rw [codeSpans_escaped rest behind] at member
      obtain ⟨after, apart, opens, closes⟩ := ih ⟨fun run member => ordered.1 run
        (List.mem_cons_of_mem _ member), (List.pairwise_cons.mp ordered.2).2⟩ span member
      exact ⟨after, apart, List.mem_cons_of_mem _ opens, List.mem_cons_of_mem _ closes⟩
  | literal cursor run rest plain unclosed ih =>
      intro span member
      rw [codeSpans_literal plain unclosed] at member
      obtain ⟨after, apart, opens, closes⟩ := ih ⟨fun run member => ordered.1 run
        (List.mem_cons_of_mem _ member), (List.pairwise_cons.mp ordered.2).2⟩ span member
      exact ⟨after, apart, List.mem_cons_of_mem _ opens, List.mem_cons_of_mem _ closes⟩
  | paired cursor opening rest closing before plain found ih =>
      intro span member
      obtain ⟨opens, apart, closes, remaining⟩ := ordered.closing found
      rw [codeSpans_paired plain found] at member
      rcases List.mem_cons.mp member with rfl | later
      · exact ⟨opens, apart, List.mem_cons_self, List.mem_cons_of_mem _ closes⟩
      · obtain ⟨after, inner, first, last⟩ := ih remaining span later
        refine ⟨?_, inner, List.mem_cons_of_mem _ (List.mem_of_mem_drop first),
          List.mem_cons_of_mem _ (List.mem_of_mem_drop last)⟩
        have stops : opening.start ≤ closing.stop :=
          ((Nat.le_add_right _ _).trans apart).trans (Nat.le_add_right _ _)
        omega

/-- The runs that the renderer pairs, of these. -/
def plainOnes (line : List Char) (runs : List BacktickRun) : List BacktickRun :=
  runs.filter fun run => !isEscaped line run.start

/-- The renderer pairs a run that does not look escaped. -/
theorem plainOnes_cons {run : BacktickRun} (plain : ¬ isEscaped line run.start)
    (rest : List BacktickRun) : plainOnes line (run :: rest) = run :: plainOnes line rest :=
  List.filter_cons_of_pos (by rw [Bool.eq_false_iff.mpr plain]; rfl)

/-- The renderer leaves out a run that looks escaped. -/
theorem plainOnes_escaped {run : BacktickRun} (behind : isEscaped line run.start)
    (rest : List BacktickRun) : plainOnes line (run :: rest) = plainOnes line rest :=
  List.filter_cons_of_neg (by rw [behind]; exact Bool.false_ne_true)

/-- What no run closes, no run that the renderer pairs closes either. -/
theorem closingRun_plainOnes_none {length : Nat} {runs : List BacktickRun}
    (unclosed : closingRun length runs = none) : closingRun length
    (plainOnes line runs) = none := by
  induction runs with
  | nil => rfl
  | cons run rest ih =>
      unfold closingRun at unclosed
      split at unclosed
      next => cases unclosed
      next other =>
        have later := ih (Option.map_eq_none_iff.mp unclosed)
        by_cases behind : isEscaped line run.start
        · rwa [plainOnes_escaped behind]
        · rw [plainOnes_cons behind]
          unfold closingRun
          rw [if_neg other, later]
          rfl

/-- A closing run that does not look escaped closes for the renderer, too. -/
theorem closingRun_plainOnes {length before : Nat} {runs : List BacktickRun} {closing : BacktickRun}
    (found : closingRun length runs = some (closing, before))
    (plain : ¬ isEscaped line closing.start) :
    ∃ fewer, closingRun length (plainOnes line runs) = some (closing, fewer) ∧
      (plainOnes line runs).drop (fewer + 1) = plainOnes line (runs.drop (before + 1)) := by
  induction runs generalizing before with
  | nil => cases found
  | cons run rest ih =>
      unfold closingRun at found
      split at found
      next same =>
        cases found
        refine ⟨0, ?_, ?_⟩
        · rw [plainOnes_cons plain]
          unfold closingRun
          rw [if_pos same]
        · rw [plainOnes_cons plain]
          rfl
      next other =>
        obtain ⟨⟨later, count⟩, inside, same⟩ := Option.map_eq_some_iff.mp found
        cases same
        obtain ⟨fewer, closes, remains⟩ := ih inside
        by_cases behind : isEscaped line run.start
        · rw [plainOnes_escaped behind]
          exact ⟨fewer, closes, remains⟩
        · rw [plainOnes_cons behind]
          refine ⟨fewer + 1, ?_, remains⟩
          unfold closingRun
          rw [if_neg other, closes]
          rfl

/-- The runs inside the last span are skipped by the renderer as well. -/
theorem neutralizeSpans_drop (cursor skipped : Nat) (runs : List BacktickRun) :
    neutralizeSpans line cursor skipped runs = neutralizeSpans line cursor 0
      (runs.drop skipped) := by
  induction skipped generalizing runs with
  | zero => rfl
  | succ skipped ih =>
      cases runs with
      | nil => rfl
      | cons run rest => exact ih rest

/-- At a run that nothing closes the renderer gives up and escapes the rest of the line. -/
theorem neutralizeSpans_literal {cursor : Nat} {run : BacktickRun} {rest : List BacktickRun}
    (unclosed : closingRun run.length rest = none) :
    neutralizeSpans line cursor 0 (run :: rest) = escapeLarkAtTags (line.drop cursor) := by
  conv => lhs; unfold neutralizeSpans
  rw [unclosed]

/-- The renderer escapes what stands before a span, keeps the span, and goes on after it. -/
theorem neutralizeSpans_paired {cursor before : Nat} {opening closing : BacktickRun}
    {rest : List BacktickRun} (found : closingRun opening.length rest = some (closing, before)) :
    neutralizeSpans line cursor 0 (opening :: rest) =
      escapeLarkAtTags (slice line cursor opening.start) ++
        (slice line opening.start closing.stop ++
          neutralizeSpans line closing.stop 0 (rest.drop (before + 1))) := by
  rw [← neutralizeSpans_drop]
  conv => lhs; unfold neutralizeSpans
  rw [found]

end Spans

section Reading

/-- The result, from the cursor on, has this image for a part of the line, and before and after it
reads like the line. -/
def ReadsAs (line : List Char) (cursor : Nat) (result : List Char) (start stop : Nat)
    (image : List Char) : Prop :=
  ∃ before after, result = before ++ (image ++ after) ∧
    PartlyEscaped cursor (slice line cursor start) before ∧
    PartlyEscaped stop (line.drop stop) after

/-- What the result has from a position on, after what reads like the line before it. -/
def ReachesAt (line : List Char) (cursor : Nat) (result : List Char) (place : Nat)
    (rest : List Char) : Prop :=
  ∃ before, result = before ++ rest ∧ PartlyEscaped cursor (slice line cursor place) before

variable {line result image head : List Char} {cursor start stop middle : Nat}

/-- What the result has from a position on is determined by the position. -/
theorem ReachesAt.unique {place : Nat} {first second : List Char}
    (one : ReachesAt line cursor result place first)
    (another : ReachesAt line cursor result place second) : first = second := by
  obtain ⟨before, rfl, reads⟩ := one
  obtain ⟨also, same, alike⟩ := another
  exact (reads.unique alike same).2

/-- Two slices that meet are partly escaped one after the other. -/
theorem partlyEscaped_slice_append {first second : List Char} (inside : middle ≤ line.length)
    (begins : cursor ≤ middle) (ends : middle ≤ stop)
    (before : PartlyEscaped cursor (slice line cursor middle) first)
    (after : PartlyEscaped middle (slice line middle stop) second) :
    PartlyEscaped cursor (slice line cursor stop) (first ++ second) := by
  rw [← slice_append_slice begins ends]
  apply before.append
  rwa [length_slice inside, Nat.add_sub_cancel' begins]

/-- A slice and all that comes after it are partly escaped one after the other. -/
theorem partlyEscaped_drop_append {first second : List Char} (inside : stop ≤ line.length)
    (ordered : start ≤ stop) (before : PartlyEscaped start (slice line start stop) first)
    (after : PartlyEscaped stop (line.drop stop) second) :
    PartlyEscaped start (line.drop start) (first ++ second) := by
  rw [← slice_append ordered]
  apply before.append
  rwa [length_slice inside, Nat.add_sub_cancel' ordered]

/-- An image is found behind what reads like the line before it. -/
theorem ReadsAs.prepend (inside : middle ≤ line.length) (begins : cursor ≤ middle)
    (after : middle ≤ start) (reads : ReadsAs line middle result start stop image)
    (before : PartlyEscaped cursor (slice line cursor middle) head) :
    ReadsAs line cursor (head ++ result) start stop image := by
  obtain ⟨left, right, rfl, first, second⟩ := reads
  exact ⟨head ++ left, right, (List.append_assoc _ _ _).symm,
    partlyEscaped_slice_append inside begins after before first, second⟩

/-- What follows a part of the line that reads like it is read on its own. -/
theorem ReadsAs.of_prepend (inside : middle ≤ line.length) (begins : cursor ≤ middle)
    (after : middle ≤ start) (reads : ReadsAs line cursor (head ++ result) start stop image)
    (before : PartlyEscaped cursor (slice line cursor middle) head) :
    ReadsAs line middle result start stop image := by
  obtain ⟨left, right, same, first, second⟩ := reads
  rw [← slice_append_slice begins after] at first
  obtain ⟨early, late, rfl, reached, following⟩ := first.split
  rw [length_slice inside, Nat.add_sub_cancel' begins] at following
  rw [List.append_assoc] at same
  obtain ⟨rfl, rfl⟩ := before.unique reached same
  exact ⟨late, right, rfl, following, second⟩

/-- A text whose tags are escaped is partly escaped. -/
theorem partlyEscaped_escapeLarkAtTags (position : Nat) (text : List Char) :
    PartlyEscaped position text (escapeLarkAtTags text) :=
  partlyEscaped_of_rewritten (escapeLarkAtTags_rewrites text) position

/-- A tag in a gap is escaped. -/
theorem readsAs_gap {gap : Nat} {rest : List Char} (tagAt : TagAt line start stop)
    (begins : cursor ≤ start) (ends : stop ≤ gap) (inside : gap ≤ line.length)
    (after : PartlyEscaped gap (line.drop gap) rest) :
    ReadsAs line cursor (escapeLarkAtTags (slice line cursor gap) ++ rest) start stop
      (escapeBrackets (slice line start stop)) := by
  have split : slice line cursor gap =
      slice line cursor start ++ (slice line start stop ++ slice line stop gap) := by
    rw [slice_append_slice tagAt.ordered ends, slice_append_slice begins (tagAt.ordered.trans ends)]
  rw [split, escapeLarkAtTags_around tagAt.isTag, List.append_assoc, List.append_assoc]
  exact ⟨_, _, rfl, partlyEscaped_escapeLarkAtTags cursor _,
    partlyEscaped_drop_append inside ends (partlyEscaped_escapeLarkAtTags stop _) after⟩

/-- What is left of a line from the cursor on is its last slice. -/
theorem drop_eq_slice (line : List Char) (cursor : Nat) :
    line.drop cursor = slice line cursor line.length := by
  unfold slice
  rw [List.take_length]

/-- Every tag of the rest of a line is escaped with it. -/
theorem readsAs_escapeLarkAtTags (tagAt : TagAt line start stop) (begins : cursor ≤ start) :
    ReadsAs line cursor (escapeLarkAtTags (line.drop cursor)) start stop
      (escapeBrackets (slice line start stop)) := by
  have ended : PartlyEscaped line.length (line.drop line.length) [] := by
    rw [List.drop_length]
    exact .nil _
  have reads := readsAs_gap tagAt begins tagAt.inside (Nat.le_refl _) ended
  rwa [List.append_nil, ← drop_eq_slice] at reads

/-- A part in which nothing may be escaped is kept. -/
theorem readsAs_of_not_allowed {allowed : Nat → Prop}
    (escaped : EscapedAt allowed cursor (line.drop cursor) result) (begins : cursor ≤ start)
    (ordered : start ≤ stop) (inside : stop ≤ line.length)
    (none : ∀ place, start ≤ place → place < stop → ¬ allowed place) :
    ReadsAs line cursor result start stop (slice line start stop) := by
  rw [← slice_append begins, ← slice_append ordered] at escaped
  obtain ⟨before, rest, rfl, first, following⟩ := escaped.split
  rw [length_slice (ordered.trans inside), Nat.add_sub_cancel' begins] at following
  obtain ⟨content, after, rfl, kept, ended⟩ := following.split
  rw [length_slice inside, Nat.add_sub_cancel' ordered] at ended
  have unchanged := kept.eq_of_not_allowed fun place later early => none place later (by
    rw [length_slice inside] at early
    omega)
  rw [unchanged]
  exact ⟨before, after, rfl, first.mono fun _ _ => trivial, ended.mono fun _ _ => trivial⟩

/-- No tag goes over a position after which none ends. -/
theorem not_crosses_of_tagless (inside : start ≤ line.length) (begins : cursor ≤ start)
    (tagless : ∀ first last, TagAt line first last → last ≤ start) :
    ¬ Crosses (slice line cursor start) (line.drop start) := by
  rintro ⟨opening, ending, _, ended, ⟨before, first⟩, ⟨after, last⟩, tagged⟩
  have split : line.drop cursor = before ++ ((opening ++ ending) ++ after) := by
    rw [← slice_append begins, ← first, ← last]
    simp only [List.append_assoc]
  have bound := tagless _ _ (tagAt_of_drop (begins.trans inside) tagged split)
  have lengths := congrArg List.length first
  rw [length_slice inside, List.length_append] at lengths
  have positive := List.length_pos_iff.mpr ended
  rw [List.length_append] at bound
  omega

/-- A line on which every tag ends early has none in what is left of it. -/
theorem not_containsAtTag_of_tagless (inside : start ≤ line.length)
    (tagless : ∀ first last, TagAt line first last → last ≤ start) :
    ¬ ContainsAtTag (line.drop start) := by
  rintro ⟨tag, tagged, before, after, split⟩
  rw [List.append_assoc] at split
  have bound := tagless _ _ (tagAt_of_drop inside tagged split.symm)
  have positive := List.length_pos_iff.mpr tagged.ne_nil
  omega

end Reading

section Property

/-- From the cursor on, the result escapes the tags outside of these code spans and keeps what is
between the runs of each. -/
structure NeutralizesOutside (line : List Char) (cursor : Nat) (spans : List CodeSpan)
    (result : List Char) : Prop where
  outside : ∀ start stop, TagAt line start stop → cursor ≤ start →
    (∀ span ∈ spans, stop ≤ span.opening.start ∨ span.closing.stop ≤ start) →
      ReadsAs line cursor result start stop (escapeBrackets (slice line start stop))
  inside : ∀ span ∈ spans, ReadsAs line cursor result span.opening.stop span.closing.start
    (slice line span.opening.stop span.closing.start)

/-- The result escapes the tags outside of the code spans of the line and keeps what is in them. -/
def NeutralizesLine (line result : List Char) : Prop :=
  NeutralizesOutside line 0 (commonMarkSpans line) result

/-- No tag ends after the start of a code span whose closing run stands behind an odd number of
backslashes. -/
def ClosingRunsPlain (line : List Char) (spans : List CodeSpan) : Prop :=
  ∀ span ∈ spans, isEscaped line span.closing.start →
    ∀ start stop, TagAt line start stop → stop ≤ span.opening.start

/-- At the first run outside of code spans that nothing closes, no tag that starts after the spans
before it has a bracket in a later span. -/
def SpansTagless (line : List Char) : (cursor skipped : Nat) → List BacktickRun → Prop
  | _, _, [] => True
  | cursor, skipped + 1, _ :: rest => SpansTagless line cursor skipped rest
  | cursor, 0, run :: rest =>
      if isEscaped line run.start then SpansTagless line cursor 0 rest
      else
        match closingRun run.length rest with
        | none => ∀ span ∈ codeSpans line 0 rest, ∀ place, TagBracket line cursor place →
            place < span.opening.stop ∨ span.closing.start ≤ place
        | some (closing, before) => SpansTagless line closing.stop (before + 1) rest

variable {line : List Char}

/-- The condition on the tags skips the runs inside the last span. -/
theorem spansTagless_drop (cursor skipped : Nat) (runs : List BacktickRun) :
    SpansTagless line cursor skipped runs ↔ SpansTagless line cursor 0 (runs.drop skipped) := by
  induction skipped generalizing runs with
  | zero => exact Iff.rfl
  | succ skipped ih =>
      cases runs with
      | nil => exact Iff.rfl
      | cons run rest => exact ih rest

/-- A run that is escaped sets no condition on the tags. -/
theorem spansTagless_escaped {cursor : Nat} {run : BacktickRun} (rest : List BacktickRun)
    (behind : isEscaped line run.start) :
    SpansTagless line cursor 0 (run :: rest) ↔ SpansTagless line cursor 0 rest := by
  conv => lhs; unfold SpansTagless
  rw [if_pos behind]

/-- At a run that nothing closes the later spans of the line must have no bracket of a
tag. -/
theorem spansTagless_literal {cursor : Nat} {run : BacktickRun} {rest : List BacktickRun}
    (plain : ¬ isEscaped line run.start) (unclosed : closingRun run.length rest = none) :
    SpansTagless line cursor 0 (run :: rest) ↔
      ∀ span ∈ codeSpans line 0 rest, ∀ place, TagBracket line cursor place →
        place < span.opening.stop ∨ span.closing.start ≤ place := by
  conv => lhs; unfold SpansTagless
  rw [if_neg plain, unclosed]

/-- A span sets no condition, and the runs after it set theirs. -/
theorem spansTagless_paired {cursor before : Nat} {opening closing : BacktickRun}
    {rest : List BacktickRun} (plain : ¬ isEscaped line opening.start)
    (found : closingRun opening.length rest = some (closing, before)) :
    SpansTagless line cursor 0 (opening :: rest) ↔
      SpansTagless line closing.stop 0 (rest.drop (before + 1)) := by
  rw [← spansTagless_drop]
  conv => lhs; unfold SpansTagless
  rw [if_neg plain, found]

/-- Runs of the line, in order, from the cursor on. -/
structure RunsIn (line : List Char) (cursor : Nat) (runs : List BacktickRun) : Prop where
  ordered : RunsFrom cursor runs
  bounded : ∀ run ∈ runs, run.stop ≤ line.length
  inside : cursor ≤ line.length

/-- The runs after the first lie in the line as well. -/
theorem RunsIn.tail {cursor : Nat} {run : BacktickRun} {rest : List BacktickRun}
    (runsIn : RunsIn line cursor (run :: rest)) : RunsIn line cursor rest :=
  ⟨⟨fun run member => runsIn.ordered.1 run (List.mem_cons_of_mem _ member),
      (List.pairwise_cons.mp runsIn.ordered.2).2⟩,
    fun run member => runsIn.bounded run (List.mem_cons_of_mem _ member), runsIn.inside⟩

/-- What is known of a span and of the runs after it. -/
theorem RunsIn.closing {cursor length before : Nat} {opening closing : BacktickRun}
    {rest : List BacktickRun} (runsIn : RunsIn line cursor (opening :: rest))
    (found : closingRun length rest = some (closing, before)) :
    cursor ≤ opening.start ∧ opening.stop ≤ closing.start ∧ opening.start ≤ closing.stop ∧
      RunsIn line closing.stop (rest.drop (before + 1)) := by
  obtain ⟨opens, apart, closes, remaining⟩ := runsIn.ordered.closing found
  refine ⟨opens, apart, ((Nat.le_add_right _ _).trans apart).trans (Nat.le_add_right _ _),
    remaining, fun run member => ?_, runsIn.bounded closing (List.mem_cons_of_mem _ closes)⟩
  exact runsIn.bounded run (List.mem_cons_of_mem _ (List.mem_of_mem_drop member))

/-- Every run starts within the line. -/
theorem RunsIn.start_le {cursor : Nat} {runs : List BacktickRun} (runsIn : RunsIn line cursor runs)
    {run : BacktickRun} (member : run ∈ runs) : run.start ≤ line.length :=
  (Nat.le_add_right _ _).trans (runsIn.bounded run member)

/-- The runs that the renderer pairs lie in the line. -/
theorem RunsIn.plainOnes {cursor : Nat} {runs : List BacktickRun}
    (runsIn : RunsIn line cursor runs) :
    RunsIn line cursor (plainOnes line runs) :=
  ⟨runsIn.ordered.filter _, fun run member => runsIn.bounded run (List.mem_filter.mp member).1,
    runsIn.inside⟩

/-- The spans come after the cursor, and inside the line. -/
theorem RunsIn.span {cursor : Nat} {runs : List BacktickRun} (runsIn : RunsIn line cursor runs)
    {span : CodeSpan} (member : span ∈ codeSpans line 0 runs) :
    cursor ≤ span.opening.start ∧ span.opening.start ≤ span.opening.stop ∧
      span.opening.stop ≤ span.closing.start ∧ span.closing.start ≤ line.length := by
  obtain ⟨after, apart, _, closes⟩ := codeSpans_inside cursor runs runsIn.ordered span member
  exact ⟨after, Nat.le_add_right _ _, apart, runsIn.start_le closes⟩

/-- What the renderer makes of the rest of a line escapes tags and nothing else. -/
theorem RunsIn.rewritten {cursor : Nat} {runs : List BacktickRun}
    (runsIn : RunsIn line cursor runs) :
    Rewritten EscapesTag (line.drop cursor) (neutralizeSpans line cursor 0 runs) :=
  neutralizeSpans_rewrites line runs cursor 0 runsIn.ordered

/-- What the renderer makes of the rest of a line reads like it, with brackets escaped. -/
theorem RunsIn.partlyEscaped {cursor : Nat} {runs : List BacktickRun}
    (runsIn : RunsIn line cursor runs) :
    PartlyEscaped cursor (line.drop cursor) (neutralizeSpans line cursor 0 runs) :=
  partlyEscaped_of_rewritten runsIn.rewritten cursor

/-- Where no tag ends any more, pairing has no effect. -/
theorem neutralizeSpans_of_tagless {cursor : Nat} {opening : BacktickRun} {rest : List BacktickRun}
    (runsIn : RunsIn line cursor (opening :: rest))
    (tagless : ∀ start stop, TagAt line start stop → stop ≤ opening.start) :
    neutralizeSpans line cursor 0 (opening :: rest) =
      escapeLarkAtTags (slice line cursor opening.start) ++ line.drop opening.start := by
  have opens := runsIn.ordered.1 opening List.mem_cons_self
  have inside := runsIn.start_le List.mem_cons_self
  cases found : closingRun opening.length rest with
  | none =>
      rw [neutralizeSpans_literal found, ← slice_append opens,
        escapeLarkAtTags_append (not_crosses_of_tagless inside opens tagless),
        escapeLarkAtTags_of_not_contains (not_containsAtTag_of_tagless inside tagless)]
  | some pair =>
      obtain ⟨_, _, closes, remaining⟩ := runsIn.closing found
      have later : neutralizeSpans line pair.1.stop 0 (rest.drop (pair.2 + 1)) =
          line.drop pair.1.stop := by
        have rewritten := remaining.rewritten
        have same : EscapesTag = EntitiesForTag := funext₂ fun piece result =>
            propext escapesTag_iff
        rw [same] at rewritten
        refine eq_of_rewritten rewritten (not_containsAtTag_of_tagless remaining.inside ?_)
        exact fun start stop tagAt => (tagless start stop tagAt).trans closes
      rw [neutralizeSpans_paired found, later, slice_append closes]

/-- What holds of the closing runs of all spans holds of the later ones. -/
theorem ClosingRunsPlain.tail {span : CodeSpan} {spans : List CodeSpan}
    (plain : ClosingRunsPlain line (span :: spans)) : ClosingRunsPlain line spans :=
  fun other member => plain other (List.mem_cons_of_mem _ member)

/-- A line whose tags are clear of the runs that are paired differently is neutralized outside of
its code spans. -/
theorem neutralizesOutside_of_spansTagless (cursor : Nat) (runs : List BacktickRun) :
    RunsIn line cursor runs → ClosingRunsPlain line (codeSpans line 0 runs) →
      SpansTagless line cursor 0 runs →
        NeutralizesOutside line cursor (codeSpans line 0 runs)
          (neutralizeSpans line cursor 0 (plainOnes line runs)) := by
  induction cursor, runs using codeSpans_induction line with
  | nil cursor =>
      intro _ _ _
      exact ⟨fun start stop tagAt begins _ => readsAs_escapeLarkAtTags tagAt begins,
        fun span absent => by cases absent⟩
  | escaped cursor run rest behind ih =>
      intro runsIn closings tagless
      rw [codeSpans_escaped rest behind] at closings ⊢
      rw [plainOnes_escaped behind]
      exact ih runsIn.tail closings ((spansTagless_escaped rest behind).mp tagless)
  | literal cursor run rest plain unclosed _ =>
      intro runsIn _ tagless
      have clear := (spansTagless_literal plain unclosed).mp tagless
      rw [codeSpans_literal plain unclosed, plainOnes_cons plain,
        neutralizeSpans_literal (closingRun_plainOnes_none unclosed)]
      refine ⟨fun start stop tagAt begins _ => readsAs_escapeLarkAtTags tagAt begins, ?_⟩
      intro span member
      obtain ⟨after, wide, apart, bounded⟩ := runsIn.tail.span member
      refine readsAs_of_not_allowed (escapedAt_escapeLarkAtTags line runsIn.inside)
        (after.trans wide)
        apart bounded fun place later early bracket => ?_
      rcases clear span member place bracket with outside | beyond <;> omega
  | paired cursor opening rest closing before plain found ih =>
      intro runsIn closings tagless
      obtain ⟨opens, apart, closes, remaining⟩ := runsIn.closing found
      have bounded := runsIn.start_le List.mem_cons_self
      rw [codeSpans_paired plain found] at closings ⊢
      rw [plainOnes_cons plain]
      by_cases behind : isEscaped line closing.start
      · have none := closings _ List.mem_cons_self behind
        have runsPlain := runsIn.plainOnes
        rw [plainOnes_cons plain] at runsPlain
        rw [neutralizeSpans_of_tagless runsPlain none]
        refine ⟨fun start stop tagAt begins _ =>
          readsAs_gap tagAt begins (none start stop tagAt) bounded (.refl _ _), ?_⟩
        intro span member
        have known : opening.start ≤ span.opening.stop ∧ span.opening.stop ≤
            span.closing.start := by
          rcases List.mem_cons.mp member with rfl | later
          · exact ⟨Nat.le_add_right _ _, apart⟩
          · obtain ⟨after, wide, inner, _⟩ := remaining.span later
            exact ⟨(closes.trans after).trans wide, inner⟩
        have reads : ReadsAs line opening.start (line.drop opening.start) span.opening.stop
            span.closing.start (slice line span.opening.stop span.closing.start) := by
          refine ⟨slice line opening.start span.opening.stop, line.drop span.closing.start, ?_,
            .refl _ _, .refl _ _⟩
          rw [slice_append known.2, slice_append known.1]
        exact reads.prepend bounded opens known.1 (partlyEscaped_escapeLarkAtTags _ _)
      · obtain ⟨fewer, pairs, remains⟩ := closingRun_plainOnes found behind
        have later := ih remaining closings.tail ((spansTagless_paired plain found).mp tagless)
        rw [neutralizeSpans_paired pairs, remains]
        have spanned := partlyEscaped_drop_append remaining.inside closes
          (.refl opening.start (slice line opening.start closing.stop))
          remaining.plainOnes.partlyEscaped
        have head : PartlyEscaped cursor (slice line cursor closing.stop)
            (escapeLarkAtTags (slice line cursor opening.start) ++
              slice line opening.start closing.stop) :=
          partlyEscaped_slice_append bounded opens closes (partlyEscaped_escapeLarkAtTags _ _)
            (.refl _ _)
        constructor
        · intro start stop tagAt begins apartFrom
          rcases apartFrom _ List.mem_cons_self with early | late
          · exact readsAs_gap tagAt begins early bounded spanned
          · rw [← List.append_assoc]
            have reads := later.outside start stop tagAt late fun span member =>
              apartFrom span (List.mem_cons_of_mem _ member)
            exact reads.prepend remaining.inside (opens.trans closes) late head
        · intro span member
          rcases List.mem_cons.mp member with rfl | member
          · have wide : opening.start ≤ opening.stop := Nat.le_add_right _ _
            have reads : ReadsAs line opening.start (slice line opening.start closing.stop ++
                neutralizeSpans line closing.stop 0 (plainOnes line (rest.drop (before + 1))))
                opening.stop closing.start (slice line opening.stop closing.start) := by
              have ended : closing.start ≤ closing.stop := Nat.le_add_right _ _
              refine ⟨slice line opening.start opening.stop,
                slice line closing.start closing.stop ++ _, ?_, .refl _ _,
                partlyEscaped_drop_append remaining.inside ended (.refl _ _)
                  remaining.plainOnes.partlyEscaped⟩
              rw [← slice_append_slice (wide.trans apart) ended, ← slice_append_slice wide apart]
              simp only [List.append_assoc]
            exact reads.prepend bounded opens wide (partlyEscaped_escapeLarkAtTags _ _)
          · rw [← List.append_assoc]
            obtain ⟨after, wide, _, _⟩ := remaining.span member
            exact (later.inside span member).prepend remaining.inside (opens.trans closes)
              (after.trans wide) head

/-- At a bracket of a tag that is escaped the result has an entity. -/
theorem ReadsAs.entity {cursor start stop place : Nat} {result : List Char}
    (reads : ReadsAs line cursor result start stop (escapeBrackets (slice line start stop)))
    (tagAt : TagAt line start stop) (begins : cursor ≤ start)
    (here : place = start ∨ place + 1 = stop) :
    cursor ≤ place ∧ place < line.length ∧
      (slice line place (place + 1) = ['<'] ∨ slice line place (place + 1) = ['>']) ∧
      ∃ rest, ReachesAt line cursor result place ('&' :: rest) := by
  obtain ⟨before, after, rfl, first, _⟩ := reads
  have inside := tagAt.inside
  have long := tagAt.start_lt
  rcases here with rfl | ended
  · have opens := tagAt.slice_start
    refine ⟨begins, by omega, .inl opens,
      "#60;".toList ++ (escapeBrackets (slice line (place + 1) stop) ++ after), _, ?_, first⟩
    rw [← slice_append_slice (Nat.le_succ place) long, opens, escapeBrackets_append]
    rfl
  · subst ended
    have closes := tagAt.slice_stop
    refine ⟨by omega, by omega, .inr closes, "#62;".toList ++ after,
      before ++ escapeBrackets (slice line start place), ?_, ?_⟩
    · rw [← slice_append_slice (by omega : start ≤ place) (Nat.le_succ place), closes,
        escapeBrackets_append]
      simp only [List.append_assoc]
      rfl
    · exact partlyEscaped_slice_append (by omega) begins (by omega) first
        (partlyEscaped_escapeBrackets start _)

/-- A part of the line that is kept has its characters. -/
theorem ReadsAs.reachesAt {cursor start stop place : Nat} {result : List Char} {char : Char}
    (reads : ReadsAs line cursor result start stop (slice line start stop))
    (begins : cursor ≤ start)
    (later : start ≤ place) (early : place < stop) (inside : start ≤ line.length)
    (here : slice line place (place + 1) = [char]) :
    ∃ rest, ReachesAt line cursor result place (char :: rest) := by
  obtain ⟨before, after, rfl, first, _⟩ := reads
  refine ⟨slice line (place + 1) stop ++ after, before ++ slice line start place, ?_,
    partlyEscaped_slice_append inside begins later first (.refl _ _)⟩
  have split : slice line start stop =
      slice line start place ++ (char :: slice line (place + 1) stop) := by
    rw [← List.singleton_append, ← here, slice_append_slice (Nat.le_succ _) early,
      slice_append_slice later early.le]
  rw [split]
  simp only [List.append_assoc, List.cons_append]

/-- A part of the line that is kept has no entity at a bracket. -/
theorem ReadsAs.not_entity {cursor start stop place : Nat} {result rest : List Char}
    (reads : ReadsAs line cursor result start stop (slice line start stop))
    (begins : cursor ≤ start)
    (later : start ≤ place) (early : place < stop) (inside : start ≤ line.length)
    (bracket : slice line place (place + 1) = ['<'] ∨ slice line place (place + 1) = ['>']) :
    ¬ ReachesAt line cursor result place ('&' :: rest) := by
  intro entity
  rcases bracket with same | same
  · obtain ⟨_, kept⟩ := reads.reachesAt begins later early inside same
    exact absurd (List.cons.inj (kept.unique entity)).1 (by decide)
  · obtain ⟨_, kept⟩ := reads.reachesAt begins later early inside same
    exact absurd (List.cons.inj (kept.unique entity)).1 (by decide)

/-- Where no tag ends any more, none has a bracket in a span. -/
theorem spansTagless_of_tagless (least cursor : Nat) (runs : List BacktickRun) :
    (∀ start stop, TagAt line start stop → stop ≤ least) → least ≤ cursor →
      RunsIn line cursor runs → SpansTagless line cursor 0 runs := by
  intro tagless
  induction cursor, runs using codeSpans_induction line with
  | nil => exact fun _ _ => trivial
  | escaped cursor run rest behind ih =>
      intro past runsIn
      exact (spansTagless_escaped rest behind).mpr (ih past runsIn.tail)
  | literal cursor run rest plain unclosed _ =>
      intro past runsIn
      rw [spansTagless_literal plain unclosed]
      rintro span member place ⟨start, stop, tagAt, begins, here⟩
      have bound := tagless start stop tagAt
      have long := tagAt.start_lt
      omega
  | paired cursor opening rest closing before plain found ih =>
      intro past runsIn
      obtain ⟨opens, _, closes, remaining⟩ := runsIn.closing found
      exact (spansTagless_paired plain found).mpr (ih ((past.trans opens).trans closes) remaining)

/-- A line whose code spans are kept has no tag with a bracket in a span after an unpaired run. -/
theorem spansTagless_of_inside (cursor : Nat) (runs : List BacktickRun) :
    RunsIn line cursor runs → ClosingRunsPlain line (codeSpans line 0 runs) →
      (∀ span ∈ codeSpans line 0 runs,
        ReadsAs line cursor (neutralizeSpans line cursor 0 (plainOnes line runs)) span.opening.stop
          span.closing.start (slice line span.opening.stop span.closing.start)) →
        SpansTagless line cursor 0 runs := by
  induction cursor, runs using codeSpans_induction line with
  | nil => exact fun _ _ _ => trivial
  | escaped cursor run rest behind ih =>
      intro runsIn closings inside
      rw [codeSpans_escaped rest behind] at closings inside
      rw [plainOnes_escaped behind] at inside
      exact (spansTagless_escaped rest behind).mpr (ih runsIn.tail closings inside)
  | literal cursor run rest plain unclosed _ =>
      intro runsIn _ inside
      rw [codeSpans_literal plain unclosed, plainOnes_cons plain,
        neutralizeSpans_literal (closingRun_plainOnes_none unclosed)] at inside
      rw [spansTagless_literal plain unclosed]
      intro span member place bracket
      obtain ⟨after, wide, apart, bounded⟩ := runsIn.tail.span member
      obtain ⟨start, stop, tagAt, begins, at_bracket⟩ := bracket
      obtain ⟨_, _, here, _, entity⟩ :=
        (readsAs_escapeLarkAtTags tagAt begins).entity tagAt begins at_bracket
      by_contra hidden
      have within : span.opening.stop ≤ place ∧ place < span.closing.start := by omega
      exact (inside span member).not_entity (after.trans wide) within.1 within.2
        (apart.trans bounded) here entity
  | paired cursor opening rest closing before plain found ih =>
      intro runsIn closings inside
      obtain ⟨opens, apart, closes, remaining⟩ := runsIn.closing found
      have bounded := runsIn.start_le List.mem_cons_self
      rw [spansTagless_paired plain found]
      rw [codeSpans_paired plain found] at closings inside
      rw [plainOnes_cons plain] at inside
      by_cases behind : isEscaped line closing.start
      · exact spansTagless_of_tagless opening.start closing.stop _
          (closings _ List.mem_cons_self behind) closes remaining
      · obtain ⟨fewer, pairs, remains⟩ := closingRun_plainOnes found behind
        rw [neutralizeSpans_paired pairs, remains] at inside
        apply ih remaining closings.tail
        intro span member
        obtain ⟨after, wide, _, _⟩ := remaining.span member
        have reads := inside span (List.mem_cons_of_mem _ member)
        rw [← List.append_assoc] at reads
        exact reads.of_prepend remaining.inside (opens.trans closes) (after.trans wide)
          (partlyEscaped_slice_append bounded opens closes (partlyEscaped_escapeLarkAtTags _ _)
            (.refl _ _))

/-- The runs that are counted in a line lie in it. -/
theorem runsIn_backtickRuns (line : List Char) : RunsIn line 0 (backtickRuns 0 0 line) := by
  refine ⟨backtickRuns_ordered line 0 0 (Nat.le_refl 0), fun run member => ?_, Nat.zero_le _⟩
  have bound := backtickRuns_stop_le (Nat.le_refl 0) member
  rwa [Nat.zero_add] at bound

end Property

section Gaps

/-- The parts of a line outside of the pairs of its runs that do not look escaped: each run is
paired with the next one of its length, up to the first run that has none. -/
def plainGaps (line : List Char) : (cursor skipped : Nat) → List BacktickRun → List (Nat × Nat)
  | cursor, _, [] => [(cursor, line.length)]
  | cursor, skipped + 1, _ :: rest => plainGaps line cursor skipped rest
  | cursor, 0, opening :: rest =>
      match closingRun opening.length rest with
      | none => [(cursor, line.length)]
      | some (closing, before) =>
          (cursor, opening.start) :: plainGaps line closing.stop (before + 1) rest

/-- A tag that lies in one of the gaps. -/
def GapTag (line : List Char) (gaps : List (Nat × Nat)) (start stop : Nat) : Prop :=
  TagAt line start stop ∧ ∃ gap ∈ gaps, gap.1 ≤ start ∧ stop ≤ gap.2

/-- The gaps tell the tags outside of the code spans: a tag that is clear of the spans lies in a
gap, and a tag in a gap has no bracket between the runs of a span. -/
structure GapsTellTags (line : List Char) (gaps : List (Nat × Nat)) (spans : List CodeSpan) :
    Prop where
  outside : ∀ start stop, TagAt line start stop →
    (∀ span ∈ spans, stop ≤ span.opening.start ∨ span.closing.stop ≤ start) →
      ∃ gap ∈ gaps, gap.1 ≤ start ∧ stop ≤ gap.2
  inside : ∀ start stop, GapTag line gaps start stop → ∀ span ∈ spans,
    ∀ place, place = start ∨ place + 1 = stop →
      place < span.opening.stop ∨ span.closing.start ≤ place

variable {line : List Char}

/-- The gaps between spans skip the runs inside the last span. -/
theorem plainGaps_drop (cursor skipped : Nat) (runs : List BacktickRun) :
    plainGaps line cursor skipped runs = plainGaps line cursor 0 (runs.drop skipped) := by
  induction skipped generalizing runs with
  | zero => rfl
  | succ skipped ih =>
      cases runs with
      | nil => rfl
      | cons run rest => exact ih rest

/-- At a run that nothing closes the gap goes on to the end of the line. -/
theorem plainGaps_literal {cursor : Nat} {run : BacktickRun} {rest : List BacktickRun}
    (unclosed : closingRun run.length rest = none) :
    plainGaps line cursor 0 (run :: rest) = [(cursor, line.length)] := by
  unfold plainGaps
  rw [unclosed]

/-- A gap ends where a span opens, and the next one begins where it closes. -/
theorem plainGaps_paired {cursor before : Nat} {opening closing : BacktickRun}
    {rest : List BacktickRun} (found : closingRun opening.length rest = some (closing, before)) :
    plainGaps line cursor 0 (opening :: rest) =
      (cursor, opening.start) :: plainGaps line closing.stop 0 (rest.drop (before + 1)) := by
  rw [← plainGaps_drop]
  conv => lhs; unfold plainGaps
  rw [found]

/-- Runs are read as the renderer pairs them. -/
theorem pairs_induction {motive : Nat → List BacktickRun → Prop} (nil : ∀ cursor, motive cursor [])
    (literal : ∀ cursor run rest, closingRun run.length rest = none → motive cursor (run :: rest))
    (paired : ∀ cursor opening rest closing before,
      closingRun opening.length rest = some (closing, before) →
        motive closing.stop (rest.drop (before + 1)) → motive cursor (opening :: rest))
    (cursor : Nat) (runs : List BacktickRun) : motive cursor runs := by
  induction size : runs.length using Nat.strongRecOn generalizing cursor runs with
  | _ size ih =>
      subst size
      cases runs with
      | nil => exact nil cursor
      | cons run rest =>
          cases found : closingRun run.length rest with
          | none => exact literal cursor run rest found
          | some pair =>
              refine paired cursor run rest pair.1 pair.2 found (ih _ ?_ _ _ rfl)
              rw [List.length_drop, List.length_cons]
              omega

/-- No gap begins before the cursor. -/
theorem plainGaps_ge (cursor : Nat) (runs : List BacktickRun) (runsIn : RunsIn line cursor runs) :
    ∀ gap ∈ plainGaps line cursor 0 runs, cursor ≤ gap.1 := by
  induction cursor, runs using pairs_induction with
  | nil cursor =>
      intro gap member
      rw [List.mem_singleton.mp member]
  | literal cursor run rest unclosed =>
      intro gap member
      rw [plainGaps_literal unclosed] at member
      rw [List.mem_singleton.mp member]
  | paired cursor opening rest closing before found ih =>
      intro gap member
      obtain ⟨opens, _, closes, remaining⟩ := runsIn.closing found
      rw [plainGaps_paired found] at member
      rcases List.mem_cons.mp member with rfl | later
      · exact Nat.le_refl _
      · exact (opens.trans closes).trans (ih remaining gap later)

/-- A bracket of a tag that lies in one of the gaps. -/
def GapBracket (line : List Char) (gaps : List (Nat × Nat)) (place : Nat) : Prop :=
  ∃ start stop, GapTag line gaps start stop ∧ (place = start ∨ place + 1 = stop)

/-- A slice before the end of a cut line is a slice of the line. -/
theorem slice_take {start stop last : Nat} (early : stop ≤ last) :
    slice (line.take last) start stop = slice line start stop := by
  unfold slice
  rw [List.take_take, Nat.min_eq_left early]

/-- Escaping a gap puts entities at brackets of its tags only. -/
theorem escapedAt_gap {cursor last : Nat} (begins : cursor ≤ last) (inside : last ≤ line.length) :
    EscapedAt (GapBracket line [(cursor, last)]) cursor (slice line cursor last)
      (escapeLarkAtTags (slice line cursor last)) := by
  have bounded : cursor ≤ (line.take last).length := by
    rw [List.length_take, Nat.min_eq_left inside]
    exact begins
  apply (escapedAt_escapeLarkAtTags (line.take last) bounded).mono
  rintro place ⟨start, stop, tagAt, later, here⟩
  have early : stop ≤ last := by
    have bound := tagAt.inside
    rw [List.length_take, Nat.min_eq_left inside] at bound
    exact bound
  have isTag := tagAt.isTag
  rw [slice_take early] at isTag
  exact ⟨start, stop, ⟨⟨tagAt.ordered, early.trans inside, isTag⟩, _, List.mem_cons_self, later,
    early⟩,
    here⟩

/-- A bracket in one of the gaps is one in more gaps. -/
theorem GapBracket.mono {gaps more : List (Nat × Nat)} {place : Nat}
    (bracket : GapBracket line gaps place) (subset : gaps ⊆ more) : GapBracket line more place := by
  obtain ⟨start, stop, ⟨tagAt, gap, member, within⟩, here⟩ := bracket
  exact ⟨start, stop, ⟨tagAt, gap, subset member, within⟩, here⟩

/-- Pairing runs escapes the tags in the gaps, and nothing else. -/
theorem neutralizeSpans_gaps (cursor : Nat) (runs : List BacktickRun) :
    RunsIn line cursor runs →
      EscapedAt (GapBracket line (plainGaps line cursor 0 runs)) cursor (line.drop cursor)
          (neutralizeSpans line cursor 0 runs) ∧
        ∀ start stop, GapTag line (plainGaps line cursor 0 runs) start stop →
          ReadsAs line cursor (neutralizeSpans line cursor 0 runs) start stop
            (escapeBrackets (slice line start stop)) := by
  -- One gap up to the end of the line.
  have whole : ∀ cursor, cursor ≤ line.length →
      EscapedAt (GapBracket line [(cursor, line.length)]) cursor (line.drop cursor)
          (escapeLarkAtTags (line.drop cursor)) ∧
        ∀ start stop, GapTag line [(cursor, line.length)] start stop →
          ReadsAs line cursor (escapeLarkAtTags (line.drop cursor)) start stop
            (escapeBrackets (slice line start stop)) := by
    intro cursor inside
    constructor
    · have escaped := escapedAt_gap inside (Nat.le_refl line.length)
      rwa [← drop_eq_slice] at escaped
    · rintro start stop ⟨tagAt, gap, member, begins, _⟩
      rw [List.mem_singleton.mp member] at begins
      exact readsAs_escapeLarkAtTags tagAt begins
  induction cursor, runs using pairs_induction with
  | nil cursor => exact fun runsIn => whole cursor runsIn.inside
  | literal cursor run rest unclosed =>
      intro runsIn
      rw [plainGaps_literal unclosed, neutralizeSpans_literal unclosed]
      exact whole cursor runsIn.inside
  | paired cursor opening rest closing before found ih =>
      intro runsIn
      obtain ⟨opens, _, closes, remaining⟩ := runsIn.closing found
      have bounded := runsIn.start_le List.mem_cons_self
      obtain ⟨escaped, reads⟩ := ih remaining
      rw [plainGaps_paired found, neutralizeSpans_paired found]
      constructor
      · rw [← slice_append opens, ← slice_append closes]
        refine ((escapedAt_gap opens bounded).mono fun place bracket => bracket.mono ?_).append ?_
        · exact fun gap member => List.mem_cons.mpr (.inl (List.mem_singleton.mp member))
        · rw [length_slice bounded, Nat.add_sub_cancel' opens]
          apply (EscapedAt.refl opening.start _).append
          rw [length_slice remaining.inside, Nat.add_sub_cancel' closes]
          exact escaped.mono fun place bracket => bracket.mono (List.subset_cons_self _ _)
      · rintro start stop ⟨tagAt, gap, member, begins, ends⟩
        rcases List.mem_cons.mp member with rfl | later
        · exact readsAs_gap tagAt begins ends bounded
            (partlyEscaped_drop_append remaining.inside closes (.refl _ _) remaining.partlyEscaped)
        · have after := (plainGaps_ge closing.stop _ remaining gap later).trans begins
          rw [← List.append_assoc]
          exact (reads start stop ⟨tagAt, gap, later, begins, ends⟩).prepend remaining.inside
            (opens.trans closes) after
            (partlyEscaped_slice_append bounded opens closes (partlyEscaped_escapeLarkAtTags _ _)
              (.refl _ _))

/-- A tag that reads escaped lies in one of the gaps. -/
theorem gap_of_reads {cursor start stop : Nat} {gaps : List (Nat × Nat)} {result : List Char}
    (escaped : EscapedAt (GapBracket line gaps) cursor (line.drop cursor) result)
    (tagAt : TagAt line start stop) (begins : cursor ≤ start)
    (reads : ReadsAs line cursor result start stop (escapeBrackets (slice line start stop))) :
    ∃ gap ∈ gaps, gap.1 ≤ start ∧ stop ≤ gap.2 := by
  by_contra absent
  have inside := tagAt.inside
  have long := tagAt.start_lt
  obtain ⟨_, _, here, _, entity⟩ := reads.entity tagAt begins (.inl rfl)
  have opens := tagAt.slice_start
  refine (readsAs_of_not_allowed escaped begins (Nat.le_succ start) (long.trans_le inside)
    ?_).not_entity
    begins (Nat.le_refl start) (Nat.lt_succ_self start) (tagAt.ordered.trans inside) here entity
  rintro place later early ⟨first, last, ⟨other, gap, member, within⟩, bracket⟩
  obtain rfl : place = start := Nat.le_antisymm (Nat.le_of_lt_succ early) later
  rcases bracket with rfl | ended
  · exact absent ⟨gap, member, within.1, (other.stop_le tagAt).trans within.2⟩
  · subst ended
    rw [other.slice_stop] at opens
    exact absurd (List.cons.inj opens).1 (by decide)

/-- A line is neutralized as CommonMark has its code spans exactly when the gaps between the pairs
of its runs that do not look escaped tell the tags outside of the spans. This is so when no tag goes
on after the start of a span whose closing run looks escaped, and no tag has a bracket in a span
after a run that nothing closes; and under the first of these, only if the second holds. -/
theorem neutralizes_line_iff (line : List Char) :
    (NeutralizesLine line (neutralizeInlineMentions line) ↔
      GapsTellTags line (plainGaps line 0 0 (plainRuns line)) (commonMarkSpans line)) ∧
    (ClosingRunsPlain line (commonMarkSpans line) ∧
        NeutralizesLine line (neutralizeInlineMentions line) ↔
      ClosingRunsPlain line (commonMarkSpans line) ∧
        SpansTagless line 0 0 (backtickRuns 0 0 line)) := by
  have runsIn := runsIn_backtickRuns line
  obtain ⟨escaped, reads⟩ := neutralizeSpans_gaps 0 (plainRuns line) runsIn.plainOnes
  refine ⟨⟨?_, ?_⟩, ?_, ?_⟩
  · intro neutralizes
    refine ⟨fun start stop tagAt clear => ?_, ?_⟩
    · exact gap_of_reads escaped tagAt (Nat.zero_le start)
        (neutralizes.outside start stop tagAt (Nat.zero_le start) clear)
    · intro start stop gapTag span member place bracket
      obtain ⟨_, wide, apart, bounded⟩ := runsIn.span member
      obtain ⟨_, _, here, _, entity⟩ :=
        (reads start stop gapTag).entity gapTag.1 (Nat.zero_le start) bracket
      by_contra hidden
      have within : span.opening.stop ≤ place ∧ place < span.closing.start := by omega
      exact (neutralizes.inside span member).not_entity (Nat.zero_le _) within.1 within.2
        (apart.trans bounded) here entity
  · intro tells
    refine ⟨fun start stop tagAt _ clear => ?_, fun span member => ?_⟩
    · exact reads start stop ⟨tagAt, tells.outside start stop tagAt clear⟩
    · obtain ⟨_, wide, apart, bounded⟩ := runsIn.span member
      apply readsAs_of_not_allowed escaped (Nat.zero_le _) apart bounded
      rintro place later early ⟨start, stop, gapTag, bracket⟩
      rcases tells.inside start stop gapTag span member place bracket with
          outside | beyond <;> omega
  · rintro ⟨closings, neutralizes⟩
    exact ⟨closings, spansTagless_of_inside 0 _ runsIn closings neutralizes.inside⟩
  · rintro ⟨closings, tagless⟩
    exact ⟨closings, neutralizesOutside_of_spansTagless 0 _ runsIn closings tagless⟩

def closerAfterBackslash : List Char := "`a\\` <at id=all> `".toList

/-- A backslash before the end of a code span leaves a mention after the span live. -/
theorem backslash_hides_closer : ¬ NeutralizesLine closerAfterBackslash
    (neutralizeInlineMentions closerAfterBackslash) := by
  intro neutralizes
  have kept : neutralizeInlineMentions closerAfterBackslash = closerAfterBackslash := by decide
  have tagAt : TagAt closerAfterBackslash 5 16 := ⟨by decide, by decide, by decide⟩
  have clear : ∀ span ∈ commonMarkSpans closerAfterBackslash,
      16 ≤ span.opening.start ∨ span.closing.stop ≤ 5 := by decide
  rw [kept] at neutralizes
  have reads := neutralizes.outside 5 16 tagAt (Nat.zero_le 5) clear
  obtain ⟨_, _, here, _, entity⟩ := reads.entity tagAt (Nat.zero_le 5) (.inl rfl)
  have whole : ReadsAs closerAfterBackslash 0 closerAfterBackslash 5 16
      (slice closerAfterBackslash 5 16) :=
    ⟨slice closerAfterBackslash 0 5, closerAfterBackslash.drop 16, by decide, .refl _ _, .refl _ _⟩
  exact whole.not_entity (Nat.zero_le 5) (Nat.le_refl 5) (by decide) (by decide) here entity

end Gaps

end LarkBot
