import LarkBot.Foundation.Spans
import LarkBot.Lark.AtTags

/-! # Reading lines character by character

The scanners of Markdown go over `splitlines`. Read character by character, a text is at each
point in a line, with a fence that was open before that line or none (`LarkBot.LineScan`). The
end of a line does not matter for fences nor for tags, so the scanners of the renderer are loops
over characters (`LarkBot.unclosedFence_eq`, `LarkBot.neutralizeLarkMentions_eq`).
-/

namespace LarkBot

open Foundation

section FenceLines

/-- A text without the end of a line. -/
def Unbroken (text : List Char) : Prop := ∀ char ∈ text, isLineBoundary char = false

/-- Two texts without the end of a line form one. -/
theorem Unbroken.append {first second : List Char} (before : Unbroken first)
    (after : Unbroken second) : Unbroken (first ++ second) := by
  intro char member
  rcases List.mem_append.mp member with early | late
  · exact before char early
  · exact after char late

/-- `_FENCE_LINE_RE` on a line whose end was stripped. -/
def matchFenceText (text : List Char) : Option (List Char × List Char) :=
  let rest := text.dropWhile (· == ' ')
  if 3 < (text.takeWhile (· == ' ')).length then none
  else
    match rest.head? with
    | some char =>
        if char = '`' ∨ char = '~' then
          if (rest.takeWhile (· == char)).length < 3 then none
          else some (rest.takeWhile (· == char), rest.dropWhile (· == char))
        else none
    | none => none

/-- `_FENCE_LINE_RE` reads a line as it reads the line without its end. -/
theorem matchFenceLine_eq (line : List Char) :
    matchFenceLine line =
      matchFenceText (line.rdropWhile fun char => char == '\r' || char == '\n') := by
  have spans : spanClass = fun member text => (text.takeWhile member, text.dropWhile member) :=
    funext fun member => funext (spanClass_eq member)
  unfold matchFenceLine matchFenceText
  exact spans ▸ rfl

/-- A line that has no end has none to strip. -/
theorem rdropWhile_of_unbroken {line : List Char} (unbroken : Unbroken line) :
    line.rdropWhile (fun char => char == '\r' || char == '\n') = line := by
  rw [List.rdropWhile_eq_self_iff]
  intro nonempty ended
  have inside := unbroken _ (List.getLast_mem nonempty)
  simp only [Bool.or_eq_true, beq_iff_eq] at ended
  rcases ended with same | same <;> rw [same] at inside <;> exact absurd inside (by decide)

/-- What may follow without being read as a part of an indentation or of a marker. -/
def FencePlain (char : Char) : Prop := char ≠ ' ' ∧ char ≠ '`' ∧ char ≠ '~'

/-- From a plain character on, all goes to what follows the marker of a line. -/
theorem matchFenceText_from_plain (text : List Char) {char : Char} (plain : FencePlain char)
    (more : List Char) : matchFenceText (text ++ char :: more) =
      (matchFenceText text).map fun (marker, info) => (marker, info ++ char :: more) := by
  obtain ⟨space, backtick, tilde⟩ := plain
  have stops : StopsAt (· == ' ') (char :: more) := stopsAt_cons (beq_eq_false_iff_ne.mpr space)
  unfold matchFenceText
  rw [takeWhile_append_of_stopsAt text stops, dropWhile_append_of_stopsAt text stops]
  dsimp only
  by_cases deep : 3 < (text.takeWhile (· == ' ')).length
  · rw [if_pos deep, if_pos deep]
    rfl
  · rw [if_neg deep, if_neg deep]
    cases text.dropWhile (· == ' ') with
    | nil =>
        simp only [List.nil_append, List.head?_cons, List.head?_nil, Option.map_none]
        rw [if_neg (by simp only [backtick, tilde, or_self, not_false_eq_true])]
    | cons first tail =>
        simp only [List.cons_append, List.head?_cons]
        by_cases marks : first = '`' ∨ first = '~'
        · have unlike : StopsAt (· == first) (char :: more) := by
            refine stopsAt_cons (beq_eq_false_iff_ne.mpr ?_)
            rcases marks with rfl | rfl
            · exact backtick
            · exact tilde
          rw [if_pos marks, if_pos marks, ← List.cons_append, takeWhile_append_of_stopsAt _ unlike,
            dropWhile_append_of_stopsAt _ unlike]
          split
          · rfl
          · rfl
        · rw [if_neg marks, if_neg marks]
          rfl

/-- The lines that are read like a line: its end, and plain characters, are of no account. -/
theorem matchFenceText_append (text : List Char) {more : List Char}
    (plain : ∀ char ∈ more, FencePlain char) :
    matchFenceText (text ++ more) =
      (matchFenceText text).map fun (marker, info) => (marker, info ++ more) := by
  cases more with
  | nil =>
      rw [List.append_nil]
      simp only [List.append_nil]
      cases matchFenceText text <;> rfl
  | cons char more => exact matchFenceText_from_plain text (plain char List.mem_cons_self) more

/-- Every character that ends a line is white space. -/
theorem isSpaceChar_of_boundary {char : Char} (boundary : isLineBoundary char) :
    isSpaceChar char := by
  unfold isLineBoundary at boundary
  unfold isSpaceChar
  simp only [Bool.or_eq_true, Bool.and_eq_true, decide_eq_true_eq, beq_iff_eq] at boundary ⊢
  omega

/-- A character that ends a line belongs to neither an indentation nor a marker. -/
theorem fencePlain_of_boundary {char : Char} (boundary : isLineBoundary char) :
    FencePlain char := by
  refine ⟨?_, ?_, ?_⟩ <;> rintro rfl <;> exact absurd boundary (by decide)

/-- Stripping the end of a text strips what follows it, when the text has nothing to
strip. -/
theorem rdropWhile_append_of_self {member : Char → Bool} {line : List Char}
    (whole : line.rdropWhile member = line) (ending : List Char) :
    (line ++ ending).rdropWhile member = line ++ ending.rdropWhile member := by
  induction ending using List.reverseRecOn with
  | nil => rw [List.append_nil, List.rdropWhile_nil, List.append_nil, whole]
  | append_singleton ending char ih =>
      rw [← List.append_assoc, List.rdropWhile_concat, List.rdropWhile_concat, ih]
      split
      · rfl
      · exact List.append_assoc _ _ _

/-- The end of a line is white space after it. -/
theorem matchFenceLine_ended {line ending : List Char} (unbroken : Unbroken line)
    (ends : ∀ char ∈ ending, isLineBoundary char) :
    ∃ spaces, (∀ char ∈ spaces, isSpaceChar char) ∧ matchFenceLine (line ++ ending) =
      (matchFenceText line).map fun (marker, info) => (marker, info ++ spaces) := by
  have kept : ∀ char ∈ ending.rdropWhile (fun char => char == '\r' || char == '\n'),
      isLineBoundary char := fun char member =>
    ends char ((List.rdropWhile_prefix _ _).subset member)
  refine ⟨_, fun char member => isSpaceChar_of_boundary (kept char member), ?_⟩
  rw [matchFenceLine_eq, rdropWhile_append_of_self (rdropWhile_of_unbroken unbroken),
    matchFenceText_append line fun char member => fencePlain_of_boundary (kept char member)]

/-- A text is empty after `strip` exactly when it is all white space. -/
theorem strip_isEmpty (text : List Char) :
    (strip text).isEmpty = text.all isSpaceChar := by
  unfold strip
  rw [Bool.eq_iff_iff, List.isEmpty_iff, List.rdropWhile_eq_nil_iff, List.all_eq_true]
  constructor
  · intro spaces char member
    rw [← List.takeWhile_append_dropWhile (p := isSpaceChar) (l := text)] at member
    rcases List.mem_append.mp member with early | late
    · exact List.mem_takeWhile_imp early
    · exact spaces char late
  · exact fun spaces char member => spaces char ((List.dropWhile_suffix _).subset member)

/-- The fence of a marker: its character and its length. -/
def markerFence (marker : List Char) : Option (Char × Nat) :=
  marker.head?.map fun char => (char, marker.length)

/-- A run of one character is the marker of a fence of that length. -/
theorem markerFence_replicate {length : Nat} (positive : 0 < length) (char : Char) :
    markerFence (List.replicate length char) = some (char, length) := by
  unfold markerFence
  rw [List.head?_replicate, if_neg (Nat.pos_iff_ne_zero.mp positive), List.length_replicate]
  rfl

/-- Whether a marker, and what follows it, closes a fence. -/
def closesText (marker info : List Char) (openFence : Char × Nat) : Bool :=
  (markerFence marker).any (fun fence => fence.1 == openFence.1 && openFence.2 ≤ fence.2) &&
    info.all isSpaceChar

/-- The fence that is open after a line, without its end. -/
def fenceAfterText (openFence : Option (Char × Nat)) (text : List Char) : Option (Char × Nat) :=
  match openFence, matchFenceText text with
  | none, some (marker, _) => markerFence marker
  | some openFence, some (marker, info) =>
      if closesText marker info openFence then none else some openFence
  | openFence, none => openFence

/-- The fence that a line marks does not depend on how the line ends. -/
theorem fenceMarker_ended {line ending : List Char} (unbroken : Unbroken line)
    (ends : ∀ char ∈ ending, isLineBoundary char) :
    fenceMarker (line ++ ending) = (matchFenceText line).bind fun (marker, _) =>
      markerFence marker := by
  obtain ⟨spaces, _, same⟩ := matchFenceLine_ended unbroken ends
  unfold fenceMarker markerFence
  rw [same]
  cases matchFenceText line <;> rfl

/-- A line that matches is an indentation of at most three, a run of at least three
marks, and the rest of the line. -/
theorem matchFenceText_marker {text marker info : List Char}
    (matched : matchFenceText text = some (marker, info)) :
    ∃ indent char, text = indent ++ (marker ++ info) ∧ (∀ char ∈ indent, char = ' ') ∧
      indent.length ≤ 3 ∧ (char = '`' ∨ char = '~') ∧ 3 ≤ marker.length ∧
      marker = List.replicate marker.length char ∧ StopsAt (· == char) info := by
  unfold matchFenceText at matched
  dsimp only at matched
  split at matched
  next => cases matched
  next shallow =>
    split at matched
    next char head =>
      split at matched
      next marks =>
        split at matched
        next => cases matched
        next long =>
          cases matched
          refine ⟨text.takeWhile (· == ' '), char, ?_, ?_, Nat.not_lt.mp shallow, marks,
            Nat.not_lt.mp long, ?_, stopsAt_dropWhile _⟩
          · rw [List.takeWhile_append_dropWhile, List.takeWhile_append_dropWhile]
          · exact fun other member =>
              beq_iff_eq.mp (List.mem_takeWhile_imp (p := fun char => char == ' ') member)
          · exact List.eq_replicate_of_mem fun other member =>
              beq_iff_eq.mp (List.mem_takeWhile_imp (p := fun other => other == char) member)
      next => cases matched
    next => cases matched

/-- The marker of a line that matches gives the character and the length of its fence. -/
theorem markerFence_of_matched {text marker info : List Char}
    (matched : matchFenceText text = some (marker, info)) :
    ∃ char, markerFence marker = some (char, marker.length) ∧ marker.head? = some char := by
  obtain ⟨_, char, _, _, _, _, long, same, _⟩ := matchFenceText_marker matched
  have head : marker.head? = some char := by
    rw [same, List.head?_replicate, if_neg (by omega)]
  refine ⟨char, ?_, head⟩
  unfold markerFence
  rw [head]
  rfl

/-- What an opening marker can be. -/
def IsFence (fence : Char × Nat) : Prop := (fence.1 = '`' ∨ fence.1 = '~') ∧ 3 ≤ fence.2

/-- Any shallow indentation before a long enough run of marks matches, with the rest of
the line as its info. -/
theorem matchFenceText_of {indent info : List Char} {char : Char} {length : Nat}
    (spaces : ∀ char ∈ indent, char = ' ') (shallow : indent.length ≤ 3)
    (marks : char = '`' ∨ char = '~') (long : 3 ≤ length) (stops : StopsAt (· == char) info) :
    matchFenceText (indent ++ (List.replicate length char ++ info)) =
      some (List.replicate length char, info) := by
  have inside : ∀ other ∈ indent, (other == ' ') = true := fun other member =>
    beq_iff_eq.mpr (spaces other member)
  have head : (List.replicate length char ++ info).head? = some char := by
    rw [List.head?_append, List.head?_replicate, if_neg (by omega)]
    rfl
  have other : StopsAt (· == ' ') (List.replicate length char ++ info) := by
    intro first same
    rw [head] at same
    cases same
    apply beq_eq_false_iff_ne.mpr
    rcases marks with rfl | rfl <;> decide
  have marked : ∀ item ∈ List.replicate length char, (item == char) = true := fun item member =>
    beq_iff_eq.mpr (List.eq_of_mem_replicate member)
  unfold matchFenceText
  rw [takeWhile_append_of_all inside other, dropWhile_append_of_all inside other,
    if_neg (Nat.not_lt.mpr shallow), head]
  dsimp only
  rw [if_pos marks, takeWhile_append_of_all marked stops, dropWhile_append_of_all marked stops,
    List.length_replicate, if_neg (Nat.not_lt.mpr long)]

/-- A line that opens a fence matches with the fence's own run, which is no longer than
the line. -/
theorem fenceAfterText_opening {text : List Char} {fence : Char × Nat}
    (opened : fenceAfterText none text = some fence) :
    IsFence fence ∧ fence.2 ≤ text.length ∧
      ∃ info, matchFenceText text = some (List.replicate fence.2 fence.1, info) := by
  unfold fenceAfterText at opened
  cases matched : matchFenceText text with
  | none =>
      rw [matched] at opened
      cases opened
  | some found =>
      obtain ⟨marker, info⟩ := found
      obtain ⟨indent, char, rfl, _, _, marks, long, same, _⟩ := matchFenceText_marker matched
      rw [matched, same] at opened
      dsimp only at opened
      rw [markerFence_replicate (by omega)] at opened
      cases opened
      refine ⟨⟨marks, long⟩, ?_, info, ?_⟩
      · rw [List.length_append, List.length_append]
        omega
      · rw [← same]

/-- While a fence is open, a line leaves it open or closes it. -/
theorem fenceAfterText_some (fence : Char × Nat) (text : List Char) :
    fenceAfterText (some fence) text = some fence ∨ fenceAfterText (some fence) text = none := by
  unfold fenceAfterText
  cases matchFenceText text with
  | none => exact .inl rfl
  | some found =>
      obtain ⟨marker, info⟩ := found
      dsimp only
      split
      · exact .inr rfl
      · exact .inl rfl

/-- A fence that is open after a line is a run of at least three marks. -/
theorem fenceAfterText_isFence {openFence : Option (Char × Nat)} {text : List Char}
    (valid : ∀ fence ∈ openFence, IsFence fence) :
    ∀ fence ∈ fenceAfterText openFence text, IsFence fence := by
  intro fence opened
  cases openFence with
  | none => exact (fenceAfterText_opening opened).1
  | some before =>
      rcases fenceAfterText_some before text with same | closed
      · rw [same] at opened
        exact valid fence opened
      · rw [closed] at opened
        cases opened

/-- A line that opens a fence opens one that is no shorter when it goes on. -/
theorem fenceAfterText_longer {text : List Char} {fence : Char × Nat} (char : Char)
    (opened : fenceAfterText none text = some fence) :
    ∃ length, fence.2 ≤ length ∧ fenceAfterText none (text ++ [char]) = some (fence.1, length) := by
  obtain ⟨⟨marks, long⟩, _, info, matched⟩ := fenceAfterText_opening opened
  obtain ⟨indent, other, split, spaces, shallow, _, _, same, stops⟩ := matchFenceText_marker matched
  rw [List.length_replicate, List.replicate_right_inj (by omega)] at same
  subst same
  have opens : ∀ length rest, 3 ≤ length → StopsAt (· == fence.1) rest →
      fenceAfterText none (indent ++ (List.replicate length fence.1 ++ rest)) =
        some (fence.1, length) := by
    intro length rest enough ends
    unfold fenceAfterText
    rw [matchFenceText_of spaces shallow marks enough ends]
    exact markerFence_replicate (by omega) fence.1
  rw [split]
  cases info with
  | nil =>
      by_cases again : char = fence.1
      · refine ⟨fence.2 + 1, Nat.le_succ _, ?_⟩
        have more := opens (fence.2 + 1) [] (by omega) stopsAt_nil
        rw [List.append_nil, List.replicate_succ'] at more
        rw [List.append_nil, List.append_assoc, again, more]
      · refine ⟨fence.2, Nat.le_refl _, ?_⟩
        have more := opens fence.2 [char] long (stopsAt_cons (beq_eq_false_iff_ne.mpr again))
        rw [List.append_nil, List.append_assoc, more]
  | cons first rest =>
      refine ⟨fence.2, Nat.le_refl _, ?_⟩
      have more := opens fence.2 (first :: (rest ++ [char])) long (stopsAt_cons (stops first rfl))
      rw [List.append_assoc, List.append_assoc, List.cons_append, more]

/-- The end of a line does not matter for fences. -/
theorem fenceAfter_ended {line ending : List Char} (unbroken : Unbroken line)
    (ends : ∀ char ∈ ending, isLineBoundary char) (openFence : Option (Char × Nat)) :
    fenceAfter openFence (line ++ ending) = fenceAfterText openFence line := by
  have marked := fenceMarker_ended unbroken ends
  obtain ⟨spaces, blank, same⟩ := matchFenceLine_ended unbroken ends
  unfold fenceAfter fenceAfterText
  rw [marked]
  cases matched : matchFenceText line with
  | none => cases openFence <;> rfl
  | some found =>
      obtain ⟨marker, info⟩ := found
      obtain ⟨char, fence, _⟩ := markerFence_of_matched matched
      cases openFence with
      | none => simp only [Option.bind_some, fence]
      | some openFence =>
          simp only [Option.bind_some, fence]
          have closes : closesFence (line ++ ending) (char, marker.length) openFence =
              closesText marker info openFence := by
            unfold closesFence closesText
            rw [same, matched, fence]
            dsimp only [Option.map_some, Option.any_some]
            rw [strip_isEmpty, List.all_append, List.all_eq_true.mpr blank, Bool.and_true]
          rw [closes]

/-- A line without an end is read like the line of the rule. -/
theorem fenceAfter_of_unbroken {line : List Char} (unbroken : Unbroken line)
    (openFence : Option (Char × Nat)) : fenceAfter openFence line = fenceAfterText openFence
    line := by
  have ended := @fenceAfter_ended line [] unbroken (fun _ absent => by cases absent) openFence
  rwa [List.append_nil] at ended

/-- An empty line neither opens nor closes a fence. -/
theorem fenceAfterText_nil (openFence : Option (Char × Nat)) :
    fenceAfterText openFence [] = openFence := by
  cases openFence <;> rfl

end FenceLines

section Scans

/-- Where a scan of a text is: the fence that was open before the line, and the line so far. -/
@[ext] structure LineScan where
  openFence : Option (Char × Nat)
  line : List Char
  isFence : ∀ fence ∈ openFence, IsFence fence
  unbroken : Unbroken line

namespace LineScan

def start : LineScan :=
  ⟨none, [], fun _ absent => (by cases absent), fun _ absent => (by cases absent)⟩

/-- The fence that is open if the text ends here. -/
def fence (scan : LineScan) : Option (Char × Nat) := fenceAfterText scan.openFence scan.line

/-- Start a line after this one. -/
def nextLine (scan : LineScan) : LineScan :=
  ⟨scan.fence, [], fenceAfterText_isFence scan.isFence, fun _ absent => (by cases absent)⟩

/-- Read a character. -/
def feed (scan : LineScan) (char : Char) : LineScan :=
  if boundary : isLineBoundary char then scan.nextLine
  else ⟨scan.openFence, scan.line ++ [char], scan.isFence, scan.unbroken.append
    fun other member => by
    rw [List.mem_singleton.mp member]
    exact Bool.eq_false_iff.mpr boundary⟩

/-- Read a text. -/
def read (scan : LineScan) (text : List Char) : LineScan := text.foldl feed scan

/-- The end of a line starts the next one. -/
theorem feed_boundary {char : Char} (scan : LineScan) (boundary : isLineBoundary char) :
    scan.feed char = scan.nextLine := by
  unfold feed
  rw [dif_pos boundary]

/-- Any other character extends the line and leaves the fence. -/
theorem feed_line {char : Char} (scan : LineScan) (inside : isLineBoundary char = false) :
    (scan.feed char).openFence = scan.openFence ∧ (scan.feed char).line = scan.line ++ [char] := by
  unfold feed
  rw [dif_neg (Bool.eq_false_iff.mp inside)]
  exact ⟨rfl, rfl⟩

/-- Reading a text in two parts is reading it at once. -/
theorem read_append (scan : LineScan) (first second : List Char) :
    scan.read (first ++ second) = (scan.read first).read second := List.foldl_append

/-- Starting a line leaves the fence that is open. -/
theorem nextLine_fence (scan : LineScan) : scan.nextLine.fence = scan.fence :=
  fenceAfterText_nil _

/-- Starting a line twice is starting it once. -/
theorem nextLine_nextLine (scan : LineScan) : scan.nextLine.nextLine = scan.nextLine := by
  refine LineScan.ext ?_ rfl
  exact scan.nextLine_fence

/-- A text without the end of a line continues the line. -/
theorem read_unbroken (scan : LineScan) {text : List Char} (unbroken : Unbroken text) :
    (scan.read text).openFence = scan.openFence ∧ (scan.read text).line = scan.line ++ text := by
  induction text generalizing scan with
  | nil => exact ⟨rfl, (List.append_nil _).symm⟩
  | cons char rest ih =>
      obtain ⟨fence, line⟩ := scan.feed_line (unbroken char List.mem_cons_self)
      obtain ⟨later, whole⟩ := ih (scan.feed char) fun other member =>
        unbroken other (List.mem_cons_of_mem _ member)
      refine ⟨later.trans fence, whole.trans ?_⟩
      rw [line, List.append_assoc, List.singleton_append]

/-- The fence after the lines of a text, of which the first continues the line of the scan. -/
def fenceAfterLines (scan : LineScan) : List (List Char) → Option (Char × Nat)
  | [] => scan.fence
  | line :: lines => lines.foldl fenceAfter (fenceAfter scan.openFence (scan.line ++ line))

/-- After the end of a line, the lines of a text are read one by one from the open fence. -/
theorem fenceAfterLines_nextLine (scan : LineScan) (lines : List (List Char)) :
    scan.nextLine.fenceAfterLines lines = lines.foldl fenceAfter scan.fence := by
  cases lines with
  | nil => exact scan.nextLine_fence
  | cons line lines => rfl

/-- The line of a scan gives the same fence whatever end is put to it. -/
theorem fenceAfter_line (scan : LineScan) {ending : List Char}
    (ends : ∀ char ∈ ending, isLineBoundary char) :
    fenceAfter scan.openFence (scan.line ++ ending) = scan.fence :=
  fenceAfter_ended scan.unbroken ends scan.openFence

/-- Reading characters is reading lines. -/
theorem read_fence (text : List Char) (scan : LineScan) :
    (scan.read text).fence = scan.fenceAfterLines (splitLinesKeepEnds text) := by
  induction text using splitLinesKeepEnds.induct generalizing scan with
  | case1 => rfl
  | case2 rest ih =>
      have twice : (scan.feed '\r').feed '\n' = scan.nextLine := by
        rw [feed_boundary _ (by decide), feed_boundary _ (by decide), nextLine_nextLine]
      change (((scan.feed '\r').feed '\n').read rest).fence = _
      rw [twice, ih, fenceAfterLines_nextLine, splitLinesKeepEnds, fenceAfterLines,
        scan.fenceAfter_line (List.all_eq_true.mp (by decide))]
  | case3 char rest other boundary ih =>
      change ((scan.feed char).read rest).fence = _
      rw [feed_boundary _ boundary, ih, fenceAfterLines_nextLine,
        splitLinesKeepEnds.eq_3 char rest other, if_pos boundary, fenceAfterLines,
        scan.fenceAfter_line]
      intro only member
      rwa [List.mem_singleton.mp member]
  | case4 char rest other inside ended ih =>
      obtain ⟨fence, line⟩ := scan.feed_line (Bool.eq_false_iff.mpr inside)
      change ((scan.feed char).read rest).fence = _
      rw [ih, ended, splitLinesKeepEnds.eq_3 char rest other, if_neg inside, ended]
      simp only [fenceAfterLines, List.foldl_nil]
      rw [← line, ← fence, fenceAfter_of_unbroken (scan.feed char).unbroken]
      rfl
  | case5 char rest other inside line lines split ih =>
      obtain ⟨fence, whole⟩ := scan.feed_line (Bool.eq_false_iff.mpr inside)
      change ((scan.feed char).read rest).fence = _
      rw [ih, split, splitLinesKeepEnds.eq_3 char rest other, if_neg inside, split]
      simp only [fenceAfterLines]
      rw [fence, whole, List.append_assoc, List.singleton_append]

end LineScan

/-- `_unclosed_fence`, character by character. -/
theorem unclosedFence_eq (text : List Char) :
    unclosedFence text = (LineScan.start.read text).fence := by
  rw [LineScan.read_fence]
  unfold unclosedFence
  cases splitLinesKeepEnds text <;> rfl

end Scans

end LarkBot
