import LarkBot.Lark.LineScan

/-! # Truncated Markdown

`_truncate_markdown` cuts a text that is too long, appends an ellipsis, and closes the fence that
is open at the cut. The result never exceeds the limit (`LarkBot.length_truncateMarkdown`): the
space for a closing fence is reserved at one cut and used at a shorter one, and a longer fence
that is open there would still be open at the first. The result leaves a fence open exactly when
the cut falls in the line that closes it (`LarkBot.truncated_closes_iff`).
-/

namespace LarkBot

open Foundation

section Cuts

def ellipsis : List Char := "...".toList

def fenceLine (fence : Char × Nat) : List Char := '\n' :: List.replicate fence.2 fence.1

/-- A text that is cut with an ellipsis: it is too long, and the limit leaves room for the ellipsis
and for the fence that is open before it. -/
def Abridged (text : List Char) (limit : Nat) : Prop :=
  limit < text.length ∧ 3 < limit ∧
    (unclosedFence (text.take (limit - 3))).all fun fence => fence.2 + 4 < limit

instance (text : List Char) (limit : Nat) : Decidable (Abridged text limit) :=
  inferInstanceAs (Decidable (_ ∧ _))

/-- How much of an abridged text is kept. -/
def cutLength (text : List Char) (limit : Nat) : Nat :=
  match unclosedFence (text.take (limit - 3)) with
  | none => limit - 3
  | some fence => limit - 3 - (fence.2 + 1)

/-- What is kept of an abridged text. -/
def cutText (text : List Char) (limit : Nat) : List Char := text.take (cutLength text limit)

/-- A text that is cut is followed by the ellipsis, and by a closing fence if one is
open. -/
theorem truncateMarkdown_abridged {text : List Char} {limit : Nat}
    (abridged : Abridged text limit) :
    truncateMarkdown text limit =
      cutText text limit ++ (ellipsis ++ ((unclosedFence (cutText text limit)).elim []
        fenceLine)) := by
  obtain ⟨long, wide, room⟩ := abridged
  unfold truncateMarkdown cutText cutLength
  rw [if_neg (Nat.not_le.mpr long), if_neg (Nat.not_le.mpr wide)]
  have three : "...".toList.length = 3 := rfl
  simp only [three]
  cases opened : unclosedFence (text.take (limit - 3)) with
  | none =>
      dsimp only
      rw [opened]
      simp only [Option.elim_none, List.append_nil]
      rfl
  | some fence =>
      rw [opened] at room
      have fits : fence.2 + 4 < limit := of_decide_eq_true room
      dsimp only
      rw [List.length_cons, List.length_replicate, if_neg (by omega)]
      cases unclosedFence (text.take (limit - 3 - (fence.2 + 1))) with
      | none =>
          simp only [Option.elim_none, List.append_nil]
          rfl
      | some again =>
          simp only [Option.elim_some, List.append_assoc]
          rfl

/-- A text that is not abridged is kept as it is, or cut off at the limit. -/
theorem truncateMarkdown_bare {text : List Char} {limit : Nat} (bare : ¬ Abridged text limit) :
    truncateMarkdown text limit = text.take limit := by
  unfold truncateMarkdown
  by_cases fits : text.length ≤ limit
  · rw [if_pos fits, List.take_of_length_le fits]
  · rw [if_neg fits]
    by_cases narrow : limit ≤ 3
    · rw [if_pos narrow]
    · rw [if_neg narrow]
      have three : "...".toList.length = 3 := rfl
      simp only [three]
      cases opened : unclosedFence (text.take (limit - 3)) with
      | none =>
          refine (bare ⟨Nat.not_le.mp fits, Nat.not_le.mp narrow, ?_⟩).elim
          rw [opened]
          rfl
      | some fence =>
          dsimp only
          rw [List.length_cons, List.length_replicate, if_pos]
          by_contra room
          refine bare ⟨Nat.not_le.mp fits, Nat.not_le.mp narrow, ?_⟩
          rw [opened]
          apply decide_eq_true
          omega

end Cuts

section Limit

/-- `count` characters after a point at which a fence of at least `least` markers was open: it is
open, or its closing line has just been read, or every fence since fits in what has been read. -/
def FenceSince (least count : Nat) (scan : LineScan) : Prop :=
  (∃ fence, scan.fence = some fence ∧ least ≤ fence.2) ∨
    (∃ fence, scan.openFence = some fence ∧ least ≤ fence.2 ∧ scan.fence = none ∧ 1 ≤ count) ∨
    (∀ fence, scan.openFence = some fence → fence.2 + 2 ≤ count) ∧ scan.line.length + 2 ≤ count

/-- A line leaves the open fence open, or closes it. -/
theorem LineScan.fence_of_open {scan : LineScan} {fence : Char × Nat}
    (opened : scan.openFence = some fence) : scan.fence = some fence ∨ scan.fence = none := by
  unfold LineScan.fence
  rw [opened]
  exact fenceAfterText_some fence scan.line

/-- The end of a line leaves the fence open as long as before, and counts one character. -/
theorem FenceSince.nextLine {least count : Nat} {scan : LineScan}
    (since : FenceSince least count scan) : FenceSince least (count + 1) scan.nextLine := by
  rcases since with ⟨fence, opened, long⟩ | ⟨fence, _, _, closed, read⟩ | ⟨every, line⟩
  · exact .inl ⟨fence, scan.nextLine_fence.trans opened, long⟩
  · refine .inr (.inr ⟨fun other opened => ?_, Nat.add_le_add_right read 1⟩)
    change scan.fence = some other at opened
    rw [closed] at opened
    cases opened
  · refine .inr (.inr ⟨fun other opened => ?_, ?_⟩)
    · change scan.fence = some other at opened
      cases before : scan.openFence with
      | none =>
          unfold LineScan.fence at opened
          rw [before] at opened
          have short := (fenceAfterText_opening opened).2.1
          omega
      | some fence =>
          rcases scan.fence_of_open before with same | closed
          · rw [same] at opened
            cases opened
            exact (every _ before).trans (Nat.le_succ _)
          · rw [closed] at opened
            cases opened
    · exact (Nat.le_add_left 2 _).trans (line.trans (Nat.le_succ _))

/-- A character that is read counts one, and may close the fence. -/
theorem FenceSince.feed {least count : Nat} {scan : LineScan} (since : FenceSince least count scan)
    (char : Char) : FenceSince least (count + 1) (scan.feed char) := by
  by_cases boundary : isLineBoundary char
  · rw [scan.feed_boundary boundary]
    exact since.nextLine
  · obtain ⟨sameFence, line⟩ := scan.feed_line (Bool.eq_false_iff.mpr boundary)
    -- A fence that was open before the line stays open, unless the line closes it.
    have goesOn : ∀ fence, scan.openFence = some fence → least ≤ fence.2 →
        FenceSince least (count + 1) (scan.feed char) := by
      intro fence opened long
      have still : (scan.feed char).openFence = some fence := sameFence.trans opened
      rcases (scan.feed char).fence_of_open still with same | closed
      · exact .inl ⟨fence, same, long⟩
      · exact .inr (.inl ⟨fence, still, long, closed, Nat.le_add_left 1 count⟩)
    rcases since with ⟨fence, opened, long⟩ | ⟨fence, opened, long, _⟩ | ⟨every, short⟩
    · cases before : scan.openFence with
      | none =>
          unfold LineScan.fence at opened
          rw [before] at opened
          obtain ⟨length, longer, after⟩ := fenceAfterText_longer char opened
          refine .inl ⟨(fence.1, length), ?_, long.trans longer⟩
          unfold LineScan.fence
          rw [sameFence, before, line, after]
      | some other =>
          rcases scan.fence_of_open before with same | closed
          · rw [same] at opened
            cases opened
            exact goesOn _ before long
          · rw [closed] at opened
            cases opened
    · exact goesOn fence opened long
    · refine .inr (.inr ⟨fun other opened => ?_, ?_⟩)
      · rw [sameFence] at opened
        exact (every other opened).trans (Nat.le_succ _)
      · rw [line, List.length_append, List.length_singleton]
        omega

/-- Reading a text counts its characters, by induction on them. -/
theorem FenceSince.read {least count : Nat} {scan : LineScan} (since : FenceSince least count scan)
    (text : List Char) : FenceSince least (count + text.length) (scan.read text) := by
  induction text generalizing count scan with
  | nil => exact since
  | cons char rest ih =>
      have later := ih (since.feed char)
      rw [List.length_cons, Nat.add_comm rest.length, ← Nat.add_assoc]
      exact later

/-- A fence that is open so many characters later as the marker and the line of a closing fence
need is no shorter than the fence that was open. -/
theorem LineScan.fence_le {scan : LineScan} {text : List Char} {before after : Char × Nat}
    (opened : scan.fence = some before) (reopened : (scan.read text).fence = some after)
    (length : text.length = after.2 + 1) : before.2 ≤ after.2 := by
  have start : FenceSince before.2 0 scan := .inl ⟨before, opened, Nat.le_refl _⟩
  rcases start.read text with ⟨fence, same, long⟩ | ⟨_, _, _, closed, _⟩ | ⟨every, line⟩
  · rw [reopened] at same
    cases same
    exact long
  · rw [reopened] at closed
    cases closed
  · rw [length, Nat.zero_add] at every line
    cases still : (scan.read text).openFence with
    | none =>
        unfold LineScan.fence at reopened
        rw [still] at reopened
        have short := (fenceAfterText_opening reopened).2.1
        omega
    | some fence =>
        have fits := every fence still
        rcases (scan.read text).fence_of_open still with same | closed
        · rw [reopened] at same
          cases same
          omega
        · rw [reopened] at closed
          cases closed

/-- Truncation respects the limit. -/
theorem length_truncateMarkdown (text : List Char) (limit : Nat) :
    (truncateMarkdown text limit).length ≤ limit := by
  by_cases abridged : Abridged text limit
  · rw [truncateMarkdown_abridged abridged]
    obtain ⟨long, wide, room⟩ := abridged
    have three : ellipsis.length = 3 := rfl
    unfold cutText cutLength
    cases opened : unclosedFence (text.take (limit - 3)) with
    | none =>
        dsimp only
        rw [opened]
        simp only [Option.elim_none, List.length_append, List.length_take, three, List.length_nil]
        omega
    | some fence =>
        rw [opened] at room
        have fits : fence.2 + 4 < limit := of_decide_eq_true room
        dsimp only
        cases again : unclosedFence (text.take (limit - 3 - (fence.2 + 1))) with
        | none =>
            simp only [Option.elim_none, List.length_append, List.length_take, three,
              List.length_nil]
            omega
        | some shorter =>
            have split : text.take (limit - 3) = text.take (limit - 3 - (fence.2 + 1)) ++
                (text.drop (limit - 3 - (fence.2 + 1))).take (fence.2 + 1) := by
              rw [← List.take_add, Nat.sub_add_cancel (by omega)]
            rw [unclosedFence_eq] at again opened
            rw [split, LineScan.read_append] at opened
            have bound := LineScan.fence_le again opened (by
              rw [List.length_take, List.length_drop]
              omega)
            simp only [Option.elim_some, List.length_append, List.length_take, three, fenceLine,
              List.length_cons, List.length_replicate]
            omega
  · rw [truncateMarkdown_bare abridged, List.length_take]
    exact Nat.min_le_left _ _

end Limit

section Closing

/-- The cut falls in a line that closes a fence: the fence was open before that line, and it is not
open any more where the text is cut. -/
def CutInClosingLine (text : List Char) (limit : Nat) : Prop :=
  (LineScan.start.read (cutText text limit)).openFence.isSome ∧
    unclosedFence (cutText text limit) = none

instance (text : List Char) (limit : Nat) : Decidable (CutInClosingLine text limit) :=
  inferInstanceAs (Decidable (_ ∧ _))

/-- The ellipsis belongs to neither an indentation nor a marker. -/
theorem fencePlain_ellipsis : ∀ char ∈ ellipsis, FencePlain char := by
  intro char member
  have same : char = '.' := List.eq_of_mem_replicate (n := 3) member
  subst same
  exact ⟨by decide, by decide, by decide⟩

/-- The ellipsis has no end of a line. -/
theorem unbroken_ellipsis : Unbroken ellipsis := by
  intro char member
  rw [List.eq_of_mem_replicate (n := 3) member]
  decide

/-- A line that goes on with an ellipsis opens what it opened. -/
theorem fenceAfterText_none_ellipsis (text : List Char) :
    fenceAfterText none (text ++ ellipsis) = fenceAfterText none text := by
  unfold fenceAfterText
  rw [matchFenceText_append text fencePlain_ellipsis]
  cases matchFenceText text <;> rfl

/-- A line that goes on with an ellipsis closes nothing. -/
theorem fenceAfterText_some_ellipsis (fence : Char × Nat) (text : List Char) :
    fenceAfterText (some fence) (text ++ ellipsis) = some fence := by
  unfold fenceAfterText
  rw [matchFenceText_append text fencePlain_ellipsis]
  cases matchFenceText text with
  | none => rfl
  | some found =>
      have dotted : ellipsis.all isSpaceChar = false := by decide
      dsimp only [Option.map_some]
      unfold closesText
      rw [List.all_append, dotted, Bool.and_false, Bool.and_false, if_neg Bool.false_ne_true]

/-- The fence after an ellipsis: one that was open before the line stays open. -/
theorem LineScan.read_ellipsis_fence (scan : LineScan) :
    (scan.read ellipsis).fence = scan.openFence.or scan.fence := by
  obtain ⟨fence, line⟩ := scan.read_unbroken unbroken_ellipsis
  unfold LineScan.fence
  rw [fence, line]
  cases scan.openFence with
  | none => exact fenceAfterText_none_ellipsis scan.line
  | some fence => exact fenceAfterText_some_ellipsis fence scan.line

/-- The fence that a scan leaves open is a run of at least three marks. -/
theorem LineScan.fence_isFence (scan : LineScan) : ∀ fence ∈ scan.fence, IsFence fence :=
  fenceAfterText_isFence scan.isFence

/-- A line of as many markers closes the fence. -/
theorem fenceAfterText_closing {fence : Char × Nat} (valid : IsFence fence) :
    fenceAfterText (some fence) (List.replicate fence.2 fence.1) = none := by
  obtain ⟨marks, long⟩ := valid
  have matched := @matchFenceText_of [] [] fence.1 fence.2 (fun _ absent => (by cases absent))
    (Nat.zero_le 3) marks long stopsAt_nil
  rw [List.nil_append, List.append_nil] at matched
  have closes : closesText (List.replicate fence.2 fence.1) [] fence = true := by
    unfold closesText
    rw [markerFence_replicate (by omega), Option.any_some, beq_self_eq_true,
      decide_eq_true (Nat.le_refl _), List.all_nil]
    rfl
  unfold fenceAfterText
  rw [matched]
  dsimp only
  rw [if_pos closes]

/-- The closing fence that is appended closes the fence that is open. -/
theorem LineScan.read_fenceLine (scan : LineScan) {fence : Char × Nat}
    (opened : scan.fence = some fence) : (scan.read (fenceLine fence)).fence = none := by
  have valid := scan.fence_isFence fence opened
  have unbroken : Unbroken (List.replicate fence.2 fence.1) := by
    intro char member
    rw [List.eq_of_mem_replicate member]
    rcases valid.1 with same | same <;> rw [same] <;> decide
  have newline : scan.feed '\n' = scan.nextLine := scan.feed_boundary (by decide)
  obtain ⟨before, line⟩ := scan.nextLine.read_unbroken unbroken
  change ((scan.feed '\n').read _).fence = none
  rw [newline]
  unfold LineScan.fence
  rw [before, line]
  change fenceAfterText scan.fence _ = none
  rw [opened]
  exact fenceAfterText_closing valid

/-- An abridged text leaves no fence open exactly when the cut does not fall in the line that closes
a fence: the ellipsis after the marker makes it an ordinary line of the code. -/
theorem truncated_closes_iff {text : List Char} {limit : Nat} (abridged : Abridged text limit) :
    unclosedFence (truncateMarkdown text limit) = none ↔ ¬ CutInClosingLine text limit := by
  rw [truncateMarkdown_abridged abridged]
  unfold CutInClosingLine
  simp only [unclosedFence_eq, LineScan.read_append]
  generalize LineScan.start.read (cutText text limit) = scan
  have dotted := scan.read_ellipsis_fence
  cases opened : scan.fence with
  | none =>
      rw [opened, Option.or_none] at dotted
      simp only [Option.elim_none, and_true]
      change (scan.read ellipsis).fence = none ↔ _
      rw [dotted, Bool.not_eq_true, Option.isSome_eq_false_iff, Option.isNone_iff_eq_none]
  | some fence =>
      have still : (scan.read ellipsis).fence = some fence := by
        rw [dotted, opened]
        cases before : scan.openFence with
        | none => rfl
        | some other =>
            rcases scan.fence_of_open before with same | closed
            · rw [opened] at same
              exact same.symm
            · rw [opened] at closed
              cases closed
      simp only [Option.elim_some, (scan.read ellipsis).read_fenceLine still, reduceCtorEq,
        and_false,
        not_false_eq_true]

/-- A text that is cut in its code is closed. -/
theorem long_code_closes :
    unclosedFence (truncateMarkdown "```python\nprint('long')\nprint('long')\n```".toList 24) =
      none :=
  (truncated_closes_iff (by decide)).mpr (by decide)

/-- A text that is cut right after the marker of a closing line leaves its fence open. -/
theorem cut_marker_stays_open :
    let text := "```\na\n```\nand more".toList
    Abridged text 12 ∧ truncateMarkdown text 12 = "```\na\n```...".toList ∧
      unclosedFence (truncateMarkdown text 12) = some ('`', 3) := by
  decide

end Closing

end LarkBot
