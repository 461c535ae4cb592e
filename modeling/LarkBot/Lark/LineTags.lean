import LarkBot.Lark.LineScan

/-! # At-tags and lines

The card path neutralizes a text line by line. Read character by character, it rewrites each line
when the line ends (`LarkBot.neutralizeLarkMentions_eq`). Only brackets of tags are touched, and
nothing in a fence (`LarkBot.neutralization_touches_tags`). A text without code is neutralized as
the text path escapes it exactly when no tag goes over the end of a line
(`LarkBot.neutralize_eq_escape_iff`).
-/

namespace LarkBot

open Foundation

section Inline

/-- What may follow a line without a bearing on its code spans and tags. -/
def InlinePlain (more : List Char) : Prop := '`' ∉ more ∧ '>' ∉ more

/-- A text without backticks ends the run that was being counted, if there was one. -/
theorem backtickRuns_of_not_mem {text : List Char} (plain : '`' ∉ text) (index count : Nat) :
    backtickRuns index count text = if count = 0 then [] else [⟨index - count, count⟩] := by
  induction text generalizing index count with
  | nil => rfl
  | cons char rest ih =>
      have other : char ≠ '`' := fun same => plain (same ▸ List.mem_cons_self)
      have later := ih (fun member => plain (List.mem_cons_of_mem _ member)) (index + 1) 0
      unfold backtickRuns
      rw [if_neg other, later, if_pos rfl, List.append_nil]

/-- What has no backtick adds no run, and lengthens none. -/
theorem backtickRuns_append (text : List Char) {more : List Char} (plain : '`' ∉ more)
    (index count : Nat) : backtickRuns index count
    (text ++ more) = backtickRuns index count text := by
  induction text generalizing index count with
  | nil =>
      rw [List.nil_append, backtickRuns_of_not_mem plain]
      rfl
  | cons char rest ih =>
      rw [List.cons_append]
      unfold backtickRuns
      rw [ih, ih]

/-- Runs are found inside the text. -/
theorem backtickRuns_stop_le {text : List Char} {index count : Nat} {run : BacktickRun}
    (counted : count ≤ index) (member : run ∈ backtickRuns index count text) :
    run.stop ≤ index + text.length := by
  induction text generalizing index count with
  | nil =>
      unfold backtickRuns at member
      split at member
      · exact (List.not_mem_nil member).elim
      · rw [List.mem_singleton.mp member]
        unfold BacktickRun.stop
        dsimp only
        omega
  | cons char rest ih =>
      unfold backtickRuns at member
      rw [List.length_cons]
      split at member
      · have later := ih (Nat.succ_le_succ counted) member
        omega
      · rcases List.mem_append.mp member with here | later
        · split at here
          · exact (List.not_mem_nil here).elim
          · rw [List.mem_singleton.mp here]
            unfold BacktickRun.stop
            dsimp only
            omega
        · have bound := ih (Nat.zero_le _) later
          omega

/-- Whether a backtick looks escaped depends on what comes before it only. -/
theorem isEscaped_append {text : List Char} (more : List Char) {index : Nat}
    (inside : index ≤ text.length) : isEscaped (text ++ more) index = isEscaped text index := by
  unfold isEscaped
  rw [List.take_append_of_le_length inside]

/-- The runs that the renderer pairs: those that do not look escaped. -/
def plainRuns (text : List Char) : List BacktickRun :=
  (backtickRuns 0 0 text).filter fun run => !isEscaped text run.start

/-- A run lies within its text. -/
theorem plainRuns_stop_le {text : List Char} {run : BacktickRun} (member : run ∈ plainRuns text) :
    run.stop ≤ text.length := by
  have bound := backtickRuns_stop_le (Nat.le_refl 0) (List.mem_filter.mp member).1
  rwa [Nat.zero_add] at bound

/-- What has no backtick leaves the runs that the renderer pairs. -/
theorem plainRuns_append (text : List Char) {more : List Char} (plain : '`' ∉ more) :
    plainRuns (text ++ more) = plainRuns text := by
  unfold plainRuns
  rw [backtickRuns_append text plain]
  apply List.filter_congr
  intro run member
  have bound := backtickRuns_stop_le (Nat.le_refl 0) member
  rw [isEscaped_append more]
  unfold BacktickRun.stop at bound
  omega

/-- A slice within a text is the same when more comes after the text. -/
theorem slice_append_left {text : List Char} (more : List Char) {start stop : Nat}
    (inside : stop ≤ text.length) : slice (text ++ more) start stop = slice text start stop := by
  unfold slice
  rw [List.take_append_of_le_length inside]

/-- What closes no tag is appended to the escaped text as it is. -/
theorem escapeLarkAtTags_append_plain (text : List Char) {more : List Char}
    (unclosed : '>' ∉ more) :
    escapeLarkAtTags (text ++ more) = escapeLarkAtTags text ++ more := by
  rw [escapeLarkAtTags_append (not_crosses_of_not_mem_right unclosed),
    escapeLarkAtTags_of_not_mem (.inr unclosed)]

/-- What closes no tag is appended to the neutralized text as it is, by induction on the
runs. -/
theorem neutralizeSpans_append (text : List Char) {more : List Char} (unclosed : '>' ∉ more)
    (runs : List BacktickRun) :
    ∀ cursor skipped, cursor ≤ text.length → (∀ run ∈ runs, run.stop ≤ text.length) →
      neutralizeSpans (text ++ more) cursor skipped runs =
        neutralizeSpans text cursor skipped runs ++ more := by
  have ended : ∀ cursor, cursor ≤ text.length →
      escapeLarkAtTags ((text ++ more).drop cursor) = escapeLarkAtTags (text.drop cursor) ++
        more := by
    intro cursor inside
    rw [List.drop_append_of_le_length inside, escapeLarkAtTags_append_plain _ unclosed]
  induction runs with
  | nil => exact fun cursor _ inside _ => ended cursor inside
  | cons opening rest ih =>
      intro cursor skipped inside bounded
      have later : ∀ run ∈ rest, run.stop ≤ text.length := fun run member =>
        bounded run (List.mem_cons_of_mem _ member)
      cases skipped with
      | succ skipped => exact ih cursor skipped inside later
      | zero =>
          unfold neutralizeSpans
          cases found : closingRun opening.length rest with
          | none => exact ended cursor inside
          | some pair =>
              obtain ⟨closing, before⟩ := pair
              have member : closing ∈ rest :=
                List.mem_of_mem_drop (closingRun_spec found ▸ List.mem_cons_self)
              have opens := bounded opening List.mem_cons_self
              have start : opening.start ≤ text.length := (Nat.le_add_right _ _).trans opens
              dsimp only
              rw [slice_append_left more start, slice_append_left more (later closing member),
                ih closing.stop (before + 1) (later closing member) later, List.append_assoc,
                List.append_assoc]

/-- What follows a line plainly is kept apart. -/
theorem neutralizeInlineMentions_append (line : List Char) {more : List Char}
    (plain : InlinePlain more) :
    neutralizeInlineMentions (line ++ more) = neutralizeInlineMentions line ++ more := by
  change neutralizeSpans (line ++ more) 0 0 (plainRuns (line ++ more)) = _
  rw [plainRuns_append line plain.1, neutralizeSpans_append line plain.2 _ 0 0 (Nat.zero_le _)
    fun run member => plainRuns_stop_le member]
  rfl

/-- A line without backticks has its tags escaped and nothing else. -/
theorem neutralizeInlineMentions_of_not_mem {line : List Char} (plain : '`' ∉ line) :
    neutralizeInlineMentions line = escapeLarkAtTags line := by
  unfold neutralizeInlineMentions
  rw [backtickRuns_of_not_mem plain, if_pos rfl]
  rfl

end Inline

section Neutralized

/-- What becomes of a line, without its end, after this fence. -/
def neutralizeText (openFence : Option (Char × Nat)) (line : List Char) : List Char :=
  if openFence.isSome ∨ (fenceAfterText none line).isSome then line
  else neutralizeInlineMentions line

/-- The end of a line has no bearing on its code spans and tags. -/
theorem inlinePlain_of_boundary {ending : List Char} (ends : ∀ char ∈ ending, isLineBoundary char) :
    InlinePlain ending := by
  refine ⟨fun member => ?_, fun member => ?_⟩ <;>
    exact absurd (ends _ member) (by decide)

/-- A character that ends a line closes no tag. -/
theorem not_mem_boundary {char : Char} (boundary : isLineBoundary char) : '>' ∉ [char] := by
  intro member
  rw [← List.mem_singleton.mp member] at boundary
  exact absurd boundary (by decide)

/-- A line marks the fence that it would open where none is open. -/
theorem fenceMarker_eq {line ending : List Char} (unbroken : Unbroken line)
    (ends : ∀ char ∈ ending, isLineBoundary char) :
    fenceMarker (line ++ ending) = fenceAfterText none line := by
  rw [fenceMarker_ended unbroken ends]
  unfold fenceAfterText
  cases matchFenceText line <;> rfl

/-- A line is neutralized like the line without its end, and the end follows. -/
theorem neutralizeText_ended {line ending : List Char} (unbroken : Unbroken line)
    (ends : ∀ char ∈ ending, isLineBoundary char) (openFence : Option (Char × Nat)) :
    (if openFence.isSome ∨ (fenceMarker (line ++ ending)).isSome then line ++ ending
      else neutralizeInlineMentions (line ++ ending)) = neutralizeText openFence
        line ++ ending := by
  unfold neutralizeText
  rw [fenceMarker_eq unbroken ends]
  split
  · rfl
  · exact neutralizeInlineMentions_append line (inlinePlain_of_boundary ends)

namespace LineScan

/-- The line so far, neutralized. -/
def neutralized (scan : LineScan) : List Char := neutralizeText scan.openFence scan.line

/-- Neutralize a text character by character: a line is rewritten when it ends. -/
def neutralize (scan : LineScan) : List Char → List Char
  | [] => scan.neutralized
  | char :: rest =>
      if isLineBoundary char then scan.neutralized ++ char :: scan.nextLine.neutralize rest
      else (scan.feed char).neutralize rest

/-- Neutralize lines, of which the first continues the line of the scan. -/
def neutralizeFirst (scan : LineScan) : List (List Char) → List Char
  | [] => scan.neutralized
  | line :: lines =>
      (if scan.openFence.isSome ∨ (fenceMarker (scan.line ++ line)).isSome then scan.line ++ line
        else neutralizeInlineMentions (scan.line ++ line)) ++
        (neutralizeLines (fenceAfter scan.openFence (scan.line ++ line)) lines).flatten

/-- The end of a line writes the line out and starts the next one. -/
theorem neutralize_boundary (scan : LineScan) {char : Char} (boundary : isLineBoundary char)
    (rest : List Char) :
    scan.neutralize (char :: rest) = scan.neutralized ++ char :: scan.nextLine.neutralize rest := by
  conv => lhs; unfold neutralize
  rw [if_pos boundary]

/-- Any other character is added to the line. -/
theorem neutralize_line (scan : LineScan) {char : Char} (inside : ¬ isLineBoundary char)
    (rest : List Char) : scan.neutralize (char :: rest) = (scan.feed char).neutralize rest := by
  conv => lhs; unfold neutralize
  rw [if_neg inside]

/-- A line that has just started has nothing to write out. -/
theorem nextLine_neutralized (scan : LineScan) : scan.nextLine.neutralized = [] := by
  unfold neutralized neutralizeText
  split <;> rfl

/-- After the end of a line the lines are neutralized one by one from the open fence. -/
theorem neutralizeFirst_nextLine (scan : LineScan) (lines : List (List Char)) :
    scan.nextLine.neutralizeFirst lines = (neutralizeLines scan.fence lines).flatten := by
  cases lines with
  | nil => exact scan.nextLine_neutralized
  | cons line lines => rfl

/-- The end of the line at hand writes it out, and the other lines follow. -/
theorem neutralizeFirst_ended (scan : LineScan) {ending : List Char}
    (ends : ∀ char ∈ ending, isLineBoundary char) (lines : List (List Char)) :
    scan.neutralizeFirst (ending :: lines) =
      scan.neutralized ++ (ending ++ scan.nextLine.neutralizeFirst lines) := by
  rw [neutralizeFirst_nextLine]
  simp only [neutralizeFirst]
  rw [neutralizeText_ended scan.unbroken ends, scan.fenceAfter_line ends, List.append_assoc]
  rfl

/-- Neutralizing characters is neutralizing lines. -/
theorem neutralize_eq (text : List Char) (scan : LineScan) :
    scan.neutralize text = scan.neutralizeFirst (splitLinesKeepEnds text) := by
  induction text using splitLinesKeepEnds.induct generalizing scan with
  | case1 => rfl
  | case2 rest ih =>
      have first : isLineBoundary '\r' = true := by decide
      have second : isLineBoundary '\n' = true := by decide
      have ends : ∀ char ∈ ['\r', '\n'], isLineBoundary char = true :=
        List.all_eq_true.mp (by decide)
      rw [splitLinesKeepEnds, scan.neutralizeFirst_ended ends, ← ih, scan.neutralize_boundary first,
        scan.nextLine.neutralize_boundary second, nextLine_neutralized, nextLine_nextLine]
      rfl
  | case3 char rest other boundary ih =>
      have ends : ∀ only ∈ [char], isLineBoundary only = true := by
        intro only member
        rwa [List.mem_singleton.mp member]
      rw [splitLinesKeepEnds.eq_3 char rest other, if_pos boundary, scan.neutralizeFirst_ended ends,
        ← ih, scan.neutralize_boundary boundary]
      rfl
  | case4 char rest other inside ended ih =>
      obtain ⟨fence, line⟩ := scan.feed_line (Bool.eq_false_iff.mpr inside)
      rw [scan.neutralize_line inside, ih, ended, splitLinesKeepEnds.eq_3 char rest other,
        if_neg inside, ended]
      have whole := @neutralizeText_ended _ [] (scan.feed char).unbroken
        (fun _ absent => by cases absent) (scan.feed char).openFence
      rw [List.append_nil, List.append_nil, fence, line] at whole
      simp only [neutralizeFirst, neutralizeLines, List.flatten_nil, List.append_nil]
      rw [whole]
      unfold neutralized
      rw [fence, line]
  | case5 char rest other inside line lines split ih =>
      obtain ⟨fence, whole⟩ := scan.feed_line (Bool.eq_false_iff.mpr inside)
      rw [scan.neutralize_line inside, ih, split, splitLinesKeepEnds.eq_3 char rest other,
        if_neg inside, split]
      simp only [neutralizeFirst]
      rw [fence, whole, List.append_assoc, List.singleton_append]

end LineScan

/-- `_neutralize_lark_mentions`, character by character. -/
theorem neutralizeLarkMentions_eq (text : List Char) :
    neutralizeLarkMentions text = LineScan.start.neutralize text := by
  rw [LineScan.neutralize_eq]
  unfold neutralizeLarkMentions
  cases splitLinesKeepEnds text with
  | nil =>
      unfold LineScan.neutralizeFirst LineScan.neutralized neutralizeText
      rfl
  | cons line lines => rfl

end Neutralized

section WithoutCode

/-- A text without a character of a marker. -/
def MarkerFree (text : List Char) : Prop := '`' ∉ text ∧ '~' ∉ text

/-- A part of a text without marker characters has none either. -/
theorem MarkerFree.of_subset {text part : List Char} (free : MarkerFree text)
    (subset : part ⊆ text) :
    MarkerFree part := ⟨fun member => free.1 (subset member), fun member => free.2 (subset member)⟩

/-- A line without marker characters opens no fence. -/
theorem fenceAfterText_of_markerFree {text : List Char} (free : MarkerFree text) :
    fenceAfterText none text = none := by
  cases opened : fenceAfterText none text with
  | none => rfl
  | some fence =>
      obtain ⟨⟨marks, long⟩, _, info, matched⟩ := fenceAfterText_opening opened
      obtain ⟨indent, _, rfl, _⟩ := matchFenceText_marker matched
      have member : fence.1 ∈ indent ++ (List.replicate fence.2 fence.1 ++ info) :=
        List.mem_append_right _ (List.mem_append_left _ (List.mem_replicate.mpr ⟨by omega, rfl⟩))
      rcases marks with same | same
      · exact (free.1 (by rw [← same]; exact member)).elim
      · exact (free.2 (by rw [← same]; exact member)).elim

/-- No tag has part in the end of a line. -/
theorem infix_of_boundary {tag line : List Char} {char : Char} (boundary : isLineBoundary char)
    (tagged : IsAtTag tag) (inside : tag <:+: line ++ [char]) : tag <:+: line := by
  have unclosed := not_mem_boundary boundary
  rcases infix_append_cases tagged inside with early | late | ⟨start, stop, rfl, begun, ended, cut⟩
  · exact early
  · exact (unclosed (late.subset tagged.ends)).elim
  · exact (not_crosses_of_not_mem_right unclosed ⟨start, stop, begun, ended, cut.1, cut.2,
      tagged⟩).elim

/-- Every tag of the text stays on its line. -/
def TagsOnLines (text : List Char) : Prop := ∀ tag, IsAtTag tag → tag <:+: text → Unbroken tag

namespace LineScan

variable {scan : LineScan}

/-- Outside of a fence a line without marker characters has its tags escaped and nothing
else. -/
theorem neutralized_of_markerFree (unfenced : scan.openFence = none) (free : MarkerFree scan.line) :
    scan.neutralized = escapeLarkAtTags scan.line := by
  unfold neutralized neutralizeText
  rw [unfenced, fenceAfterText_of_markerFree free, neutralizeInlineMentions_of_not_mem free.1,
    if_neg]
  rintro (impossible | impossible) <;> cases impossible

/-- A line without marker characters leaves every fence closed. -/
theorem nextLine_unfenced (unfenced : scan.openFence = none) (free : MarkerFree scan.line) :
    scan.nextLine.openFence = none := by
  change scan.fence = none
  unfold fence
  rw [unfenced]
  exact fenceAfterText_of_markerFree free

/-- A line and its rest stay without marker characters as the line is read on. -/
theorem markerFree_feed {char : Char} {rest : List Char} (inside : ¬ isLineBoundary char)
    (free : MarkerFree (scan.line ++ char :: rest)) : MarkerFree
    ((scan.feed char).line ++ rest) := by
  rw [(scan.feed_line (Bool.eq_false_iff.mpr inside)).2, List.append_assoc]
  exact free

/-- Line by line no more is escaped. -/
theorem length_neutralize_le (text : List Char) (unfenced : scan.openFence = none)
    (free : MarkerFree (scan.line ++ text)) :
    (scan.neutralize text).length ≤ (escapeLarkAtTags (scan.line ++ text)).length := by
  induction text generalizing scan with
  | nil =>
      rw [List.append_nil] at free ⊢
      exact (congrArg List.length (neutralized_of_markerFree unfenced free)).le
  | cons char rest ih =>
      by_cases boundary : isLineBoundary char
      · have here := free.of_subset (List.subset_append_left _ _)
        have later : (scan.nextLine.neutralize rest).length ≤ (escapeLarkAtTags rest).length :=
          ih (nextLine_unfenced unfenced here) (free.of_subset fun _ member =>
            List.mem_append_right _ (List.mem_cons_of_mem _ member))
        have apart := length_escapeLarkAtTags_append (scan.line ++ [char]) rest
        have unclosed := not_mem_boundary boundary
        rw [escapeLarkAtTags_append_plain _ unclosed, List.append_assoc, List.singleton_append,
          List.length_append, List.length_singleton] at apart
        rw [scan.neutralize_boundary boundary, neutralized_of_markerFree unfenced here,
          List.length_append, List.length_cons]
        omega
      · obtain ⟨fence, line⟩ := scan.feed_line (Bool.eq_false_iff.mpr boundary)
        have later := ih (fence.trans unfenced) (markerFree_feed boundary free)
        rw [line, List.append_assoc] at later
        rwa [scan.neutralize_line boundary]

/-- Nothing escaped in lines only if no tag goes over the end of one. -/
theorem tagsOnLines_of_neutralize (text : List Char) (unfenced : scan.openFence = none)
    (free : MarkerFree (scan.line ++ text))
    (same : scan.neutralize text = escapeLarkAtTags (scan.line ++ text)) :
    TagsOnLines (scan.line ++ text) := by
  induction text generalizing scan with
  | nil =>
      rw [List.append_nil]
      exact fun tag _ inside char member => scan.unbroken char (inside.subset member)
  | cons char rest ih =>
      by_cases boundary : isLineBoundary char
      · have here := free.of_subset (List.subset_append_left _ _)
        have after : MarkerFree rest := free.of_subset fun _ member =>
          List.mem_append_right _ (List.mem_cons_of_mem _ member)
        have unfencedNext := nextLine_unfenced unfenced here
        have unclosed := not_mem_boundary boundary
        have shorter : (scan.nextLine.neutralize rest).length ≤ (escapeLarkAtTags rest).length :=
          length_neutralize_le rest unfencedNext after
        have split : scan.line ++ char :: rest = (scan.line ++ [char]) ++ rest := by
          rw [List.append_assoc, List.singleton_append]
        rw [scan.neutralize_boundary boundary, neutralized_of_markerFree unfenced here,
          split] at same
        have apart : ¬ Crosses (scan.line ++ [char]) rest := by
          intro crosses
          have longer := crosses.length_lt
          rw [← same, escapeLarkAtTags_append_plain _ unclosed, List.length_append,
            List.length_append, List.length_singleton, List.length_cons] at longer
          omega
        rw [escapeLarkAtTags_append apart, escapeLarkAtTags_append_plain _ unclosed,
          List.append_assoc,
          List.singleton_append] at same
        have following := (List.cons.inj (List.append_cancel_left same)).2
        have later : TagsOnLines rest := ih unfencedNext after following
        intro tag tagged inside
        rw [split] at inside
        rcases infix_append_cases tagged inside with early | late | ⟨start, stop, rfl, cut⟩
        · have within := infix_of_boundary boundary tagged early
          exact fun other member => scan.unbroken other (within.subset member)
        · exact later tag tagged late
        · exact (apart ⟨start, stop, cut.1, cut.2.1, cut.2.2.1, cut.2.2.2, tagged⟩).elim
      · obtain ⟨fence, line⟩ := scan.feed_line (Bool.eq_false_iff.mpr boundary)
        have whole : scan.line ++ char :: rest = (scan.feed char).line ++ rest := by
          rw [line, List.append_assoc, List.singleton_append]
        rw [whole]
        apply ih (fence.trans unfenced) (markerFree_feed boundary free)
        rw [← whole, ← same, scan.neutralize_line boundary]

/-- Tags that stay on their lines are escaped line by line. -/
theorem neutralize_of_tagsOnLines (text : List Char) (unfenced : scan.openFence = none)
    (free : MarkerFree (scan.line ++ text)) (tags : TagsOnLines (scan.line ++ text)) :
    scan.neutralize text = escapeLarkAtTags (scan.line ++ text) := by
  induction text generalizing scan with
  | nil =>
      rw [List.append_nil] at free ⊢
      exact neutralized_of_markerFree unfenced free
  | cons char rest ih =>
      by_cases boundary : isLineBoundary char
      · have here := free.of_subset (List.subset_append_left _ _)
        have unclosed := not_mem_boundary boundary
        have split : scan.line ++ char :: rest = (scan.line ++ [char]) ++ rest := by
          rw [List.append_assoc, List.singleton_append]
        have apart : ¬ Crosses (scan.line ++ [char]) rest := by
          rintro ⟨start, stop, begun, _, before, after, tagged⟩
          obtain ⟨first, last, rfl⟩ := List.eq_nil_or_concat start |>.resolve_left begun
          rw [List.concat_eq_append] at before tagged
          obtain ⟨init, same⟩ := before
          rw [← List.append_assoc] at same
          cases (List.append_inj' same rfl).2
          have inside : (first ++ [char]) ++ stop <:+: scan.line ++ char :: rest := by
            obtain ⟨tail, rfl⟩ := after
            refine ⟨init, tail, ?_⟩
            rw [split, ← same]
            simp only [List.append_assoc]
          have ended := tags _ tagged inside char
            (List.mem_append_left _ (List.mem_append_right _ List.mem_cons_self))
          rw [ended] at boundary
          cases boundary
        have later : scan.nextLine.neutralize rest = escapeLarkAtTags rest :=
          ih (nextLine_unfenced unfenced here) (free.of_subset fun _ member =>
            List.mem_append_right _ (List.mem_cons_of_mem _ member))
            fun tag tagged inside => tags tag tagged (inside.trans
              ((List.suffix_cons char rest).trans (List.suffix_append _ _)).isInfix)
        rw [scan.neutralize_boundary boundary, neutralized_of_markerFree unfenced here, split,
          escapeLarkAtTags_append apart, escapeLarkAtTags_append_plain _ unclosed, later,
          List.append_assoc, List.singleton_append]
      · obtain ⟨fence, line⟩ := scan.feed_line (Bool.eq_false_iff.mpr boundary)
        have whole : scan.line ++ char :: rest = (scan.feed char).line ++ rest := by
          rw [line, List.append_assoc, List.singleton_append]
        rw [scan.neutralize_line boundary, whole]
        rw [whole] at tags
        exact ih (fence.trans unfenced) (markerFree_feed boundary free) tags

end LineScan

/-- Without backticks and tildes, a card is neutralized as a plain text is escaped exactly when
every tag stays on its line. -/
theorem neutralize_eq_escape_iff {text : List Char} (free : MarkerFree text) :
    neutralizeLarkMentions text = escapeLarkAtTags text ↔ TagsOnLines text := by
  rw [neutralizeLarkMentions_eq]
  exact ⟨@LineScan.tagsOnLines_of_neutralize LineScan.start text rfl free,
    @LineScan.neutralize_of_tagsOnLines LineScan.start text rfl free⟩

/-- The tags of a text may all lie on its first line. -/
theorem plain_mention_on_line : TagsOnLines "Notify <at id=all></at>\nnow".toList :=
  (neutralize_eq_escape_iff ⟨by decide, by decide⟩).mp (by decide)

/-- The card path leaves a tag that goes over the end of a line, the text path escapes it. -/
theorem broken_tag_live :
    let text := "<at\nuser_id=\"all\">".toList
    MarkerFree text ∧ neutralizeLarkMentions text = text ∧
      escapeLarkAtTags text = "&#60;at\nuser_id=\"all\"&#62;".toList ∧
      neutralizeLarkMentions text ≠ escapeLarkAtTags text := by
  dsimp only
  exact ⟨⟨by decide, by decide⟩, by decide, by decide, by decide⟩

end WithoutCode

section Touched

/-- An at-tag whose brackets are replaced by their entities. -/
def EntitiesForTag (piece result : List Char) : Prop :=
  IsAtTag piece ∧ result = escapeBrackets piece

/-- A rewriting of tags leaves a text without tags as it is. -/
theorem eq_of_rewritten {before after : List Char}
    (rewritten : Rewritten EntitiesForTag before after)
    (tagless : ¬ ContainsAtTag before) : after = before := by
  induction rewritten with
  | nil => rfl
  | @keep before after char _ ih =>
      rw [ih fun contains => tagless (contains.of_infix (List.suffix_cons char before).isInfix)]
  | @replace before _ piece _ replaced _ _ =>
      exact (tagless ⟨piece, replaced.1, (List.prefix_append piece before).isInfix⟩).elim

/-- The fence that the scanner considers open before a line. -/
def fenceBefore (lines : List (List Char)) (index : Nat) : Option (Char × Nat) :=
  (lines.take index).foldl fenceAfter none

/-- The lines of a fenced block, and of the fences, are kept. -/
theorem neutralizeLines_getElem? (lines : List (List Char)) (openFence : Option (Char × Nat))
    {index : Nat} {line : List Char} (present : lines[index]? = some line)
    (fenced : ((lines.take index).foldl fenceAfter openFence).isSome) :
    (neutralizeLines openFence lines)[index]? = some line := by
  induction lines generalizing openFence index with
  | nil => cases present
  | cons first rest ih =>
      unfold neutralizeLines
      cases index with
      | zero =>
          rw [List.getElem?_cons_zero] at present ⊢
          rw [if_pos (.inl fenced), present]
      | succ index =>
          rw [List.getElem?_cons_succ] at present ⊢
          exact ih _ present fenced

/-- Neutralizing replaces the brackets of disjoint tags by entities and keeps every other character
in place: a text without tags, and the lines inside an open fence, are returned as they are. -/
theorem neutralization_touches_tags (markdown : List Char) :
    Rewritten EntitiesForTag markdown (neutralizeLarkMentions markdown) ∧
      (¬ ContainsAtTag markdown → neutralizeLarkMentions markdown = markdown) ∧
      ∃ parts, neutralizeLarkMentions markdown = parts.flatten ∧
        List.Forall₂ (Rewritten EntitiesForTag) (splitLinesKeepEnds markdown) parts ∧
        ∀ index line, (splitLinesKeepEnds markdown)[index]? = some line →
          (fenceBefore (splitLinesKeepEnds markdown) index).isSome → parts[index]? = some line := by
  have same : EscapesTag = EntitiesForTag := funext₂ fun piece result => propext escapesTag_iff
  have rewritten := neutralizeLarkMentions_rewrites markdown
  have lines := neutralizeLines_rewrites (splitLinesKeepEnds markdown) none
  rw [same] at rewritten lines
  exact ⟨rewritten, eq_of_rewritten rewritten, _, rfl, lines,
    fun index line present fenced => neutralizeLines_getElem? _ none present fenced⟩

end Touched

end LarkBot
