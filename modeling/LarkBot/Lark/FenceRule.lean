import LarkBot.Lark.TruncatedMentions

/-! # Fences in CommonMark

The lines of a text as CommonMark has them, and the fence that is open after each
(`LarkBot.commonMarkFences`), beside the scanner of the renderer. Both read a marker in the same
way. The scanner lets a backtick stand in the info string of an opening line, and it ends lines at
more characters, so what follows one of these is not seen where a fence is closed. As long as no
marker comes after such a character, the scanner follows CommonMark exactly as far as neither
matters (`LarkBot.fence_rule_iff`).
-/

namespace LarkBot

open Foundation

section Lockstep

variable {State Item Seen : Type*}

/-- Two folds that go on together from one state as long as each item is kept are told apart right
after the first item that is not, where the items are plain for the second. -/
theorem foldl_observe_iff {first second : State → Item → State} {observe : State → Seen}
    {Plain Kept : State → Item → Prop}
    (told : ∀ state item, Plain state item →
      (observe (first state item) = observe (second state item) ↔ Kept state item))
    (together : ∀ state item, Plain state item → Kept state item →
      first state item = second state item)
    (items : List Item) (start : State)
    (plain : ∀ read item later, items = read ++ item :: later →
      Plain (read.foldl second start) item) :
    (∀ read later, items = read ++ later →
        observe (read.foldl first start) = observe (read.foldl second start)) ↔
      ∀ read item later, items = read ++ item :: later → Kept (read.foldl second start) item := by
  induction items generalizing start with
  | nil =>
      constructor
      · intro _ read item later impossible
        exact (List.cons_ne_nil _ _ (List.append_eq_nil_iff.mp impossible.symm).2).elim
      · intro _ read later empty
        rw [(List.append_eq_nil_iff.mp empty.symm).1]
        rfl
  | cons item items ih =>
      have next := ih (second start item) fun read other later same =>
        plain (item :: read) other later (by rw [same, List.cons_append])
      have now := plain [] item items rfl
      constructor
      · intro agree
        have here := (told start item now).mp (agree [item] items rfl)
        have rest : ∀ read later, items = read ++ later →
            observe (read.foldl first (second start item)) =
              observe (read.foldl second (second start item)) := by
          intro read later same
          have whole := agree (item :: read) later (by rw [same, List.cons_append])
          rw [List.foldl_cons, List.foldl_cons, together start item now here] at whole
          exact whole
        intro read other later same
        cases read with
        | nil =>
            cases same
            exact here
        | cons head read =>
            obtain ⟨rfl, remaining⟩ := List.cons.inj same
            exact next.mp rest read other later remaining
      · intro kept
        have here := kept [] item items rfl
        have rest : ∀ read other later, items = read ++ other :: later →
            Kept (read.foldl second (second start item)) other := by
          intro read other later same
          exact kept (item :: read) other later (by rw [same, List.cons_append])
        intro read later same
        cases read with
        | nil => rfl
        | cons head read =>
            obtain ⟨rfl, remaining⟩ := List.cons.inj same
            rw [List.foldl_cons, List.foldl_cons, together start item now here]
            exact next.mpr rest read later remaining

end Lockstep

section CommonMark

def isLineEnd (char : Char) : Bool := char == '\n' || char == '\r'

/-- The lines of a text, which end at a line feed, a carriage return, or both. -/
def commonMarkLines : List Char → List (List Char)
  | [] => []
  | '\r' :: '\n' :: rest => ['\r', '\n'] :: commonMarkLines rest
  | char :: rest =>
      if isLineEnd char then [char] :: commonMarkLines rest
      else
        match commonMarkLines rest with
        | [] => [[char]]
        | line :: lines => (char :: line) :: lines

/-- A line without its end. -/
def lineContent (line : List Char) : List Char := line.rdropWhile isLineEnd

/-- The fence that is open in CommonMark after a line: the info string of an opening line has no
backtick if its marker is one of backticks, and only white space follows the marker of a closing
line, which is of the same kind and not shorter. -/
def commonMarkFence (white : Char → Bool) (openFence : Option (Char × Nat)) (text : List Char) :
    Option (Char × Nat) :=
  match openFence, matchFenceText text with
  | none, some (marker, info) =>
      if marker.head? = some '`' ∧ '`' ∈ info then none else markerFence marker
  | some openFence, some (marker, info) =>
      if (markerFence marker).any (fun fence => fence.1 == openFence.1 && openFence.2 ≤ fence.2) &&
          info.all white
      then none else some openFence
  | openFence, none => openFence

/-- The fence that is open in CommonMark after these lines. -/
def commonMarkFences (white : Char → Bool) (lines : List (List Char)) : Option (Char × Nat) :=
  lines.foldl (fun openFence line => commonMarkFence white openFence (lineContent line)) none

/-- What the scanner takes for the first line of a line. -/
def firstPiece (text : List Char) : List Char := text.takeWhile fun char => !isLineBoundary char

/-- After a character that ends a line for the scanner only, a marker comes that opens a fence, or
closes the one that is open. -/
def HidesMarker (openFence : Option (Char × Nat)) (text : List Char) : Prop :=
  ∃ before char after, text = before ++ char :: after ∧ isLineBoundary char ∧
    fenceAfterText (fenceAfterText openFence (firstPiece text)) (firstPiece after) ≠
      fenceAfterText openFence (firstPiece text)

/-- The scanner and CommonMark read a line alike after the same lines: it has no backtick in the
info string of an opening line with backticks, and where the scanner sees a closing line all is
white space up to the end. -/
def FenceRuleKept (white : Char → Bool) (openFence : Option (Char × Nat)) (text : List Char) :
    Prop :=
  match openFence, matchFenceText text with
  | none, some (marker, info) => ¬ (marker.head? = some '`' ∧ '`' ∈ info)
  | some openFence, some (marker, info) =>
      closesText marker (firstPiece info) openFence → info.all white
  | _, none => True

/-- A fence that is open in CommonMark is a run of at least three marks. -/
theorem commonMarkFence_isFence {white : Char → Bool} {openFence : Option (Char × Nat)}
    {text : List Char} (valid : ∀ fence ∈ openFence, IsFence fence) :
    ∀ fence ∈ commonMarkFence white openFence text, IsFence fence := by
  unfold commonMarkFence
  cases openFence with
  | none =>
      cases matched : matchFenceText text with
      | none => exact fun _ absent => by cases absent
      | some found =>
          intro fence opened
          dsimp only at opened
          split at opened
          next => cases opened
          next =>
            have same : fenceAfterText none text = some fence := by
              unfold fenceAfterText
              rw [matched]
              exact opened
            exact (fenceAfterText_opening same).1
  | some before =>
      cases matchFenceText text with
      | none => exact valid
      | some found =>
          dsimp only
          split
          · exact fun _ absent => by cases absent
          · exact valid

/-- After any lines, a fence that is open in CommonMark is a run of at least three marks. -/
theorem commonMarkFences_isFence (white : Char → Bool) (lines : List (List Char)) :
    ∀ fence ∈ commonMarkFences white lines, IsFence fence := by
  induction lines using List.reverseRecOn with
  | nil => exact fun _ absent => by cases absent
  | append_singleton lines line ih =>
      unfold commonMarkFences
      rw [List.foldl_append]
      exact commonMarkFence_isFence ih

end CommonMark

section Lines

/-- A line that another one may follow. -/
def EndsLine (line : List Char) : Prop := ∃ char ∈ line.getLast?, isLineEnd char

/-- Where a line ends in CommonMark, it ends for the scanner. -/
theorem isLineBoundary_of_isLineEnd {char : Char} (ends : isLineEnd char) :
    isLineBoundary char := by
  unfold isLineEnd at ends
  rcases Bool.or_eq_true_iff.mp ends with same | same <;> rw [beq_iff_eq.mp same] <;> decide

/-- The lines of a text, put together, are the text. -/
theorem commonMarkLines_flatten (text : List Char) : (commonMarkLines text).flatten = text := by
  induction text using commonMarkLines.induct with
  | case1 => rfl
  | case2 rest ih =>
      rw [commonMarkLines, List.flatten_cons, ih]
      rfl
  | case3 char rest other ends ih =>
      rw [commonMarkLines.eq_3 char rest other, if_pos ends, List.flatten_cons, ih]
      rfl
  | case4 char rest other inside ended ih =>
      rw [ended] at ih
      rw [commonMarkLines.eq_3 char rest other, if_neg inside, ended, ← ih]
      rfl
  | case5 char rest other inside line lines split ih =>
      rw [split] at ih
      rw [commonMarkLines.eq_3 char rest other, if_neg inside, split]
      dsimp only
      rw [List.flatten_cons, List.cons_append, ← List.flatten_cons, ih]

/-- Every line but the last has its end. -/
theorem commonMarkLines_endsLine (text : List Char) :
    ∀ line ∈ (commonMarkLines text).dropLast, EndsLine line := by
  have tail : ∀ {first : List Char} {lines : List (List Char)}, EndsLine first →
      (∀ line ∈ lines.dropLast, EndsLine line) → ∀ line ∈
      (first :: lines).dropLast, EndsLine line := by
    intro first lines ends later line member
    cases lines with
    | nil => cases member
    | cons second lines =>
        rw [List.dropLast_cons_cons] at member
        rcases List.mem_cons.mp member with rfl | among
        · exact ends
        · exact later line among
  induction text using commonMarkLines.induct with
  | case1 => exact fun _ absent => by cases absent
  | case2 rest ih =>
      rw [commonMarkLines]
      exact tail ⟨'\n', rfl, rfl⟩ ih
  | case3 char rest other ends ih =>
      rw [commonMarkLines.eq_3 char rest other, if_pos ends]
      exact tail ⟨char, rfl, ends⟩ ih
  | case4 char rest other inside ended ih =>
      rw [commonMarkLines.eq_3 char rest other, if_neg inside, ended]
      exact fun _ absent => by cases absent
  | case5 char rest other inside line lines split ih =>
      rw [split] at ih
      rw [commonMarkLines.eq_3 char rest other, if_neg inside, split]
      dsimp only
      cases lines with
      | nil => exact fun _ absent => by cases absent
      | cons second lines =>
          rw [List.dropLast_cons_cons] at ih ⊢
          intro other member
          rcases List.mem_cons.mp member with rfl | among
          · obtain ⟨last, same, ends⟩ := ih line List.mem_cons_self
            refine ⟨last, ?_, ends⟩
            rw [List.getLast?_cons, same]
            rfl
          · exact ih other (List.mem_cons_of_mem _ among)

end Lines

section Scanner

/-- The fence that is open for the scanner after a line. -/
def scannerFence (openFence : Option (Char × Nat)) (line : List Char) : Option (Char × Nat) :=
  (splitLinesKeepEnds line).foldl fenceAfter openFence

/-- A character that ends no line belongs to the first piece. -/
theorem firstPiece_cons {char : Char} (inside : isLineBoundary char = false) (rest : List Char) :
    firstPiece (char :: rest) = char :: firstPiece rest := by
  unfold firstPiece
  rw [List.takeWhile_cons, inside]
  rfl

/-- The first piece ends before the first character that ends a line. -/
theorem firstPiece_boundary {char : Char} (boundary : isLineBoundary char) (rest : List Char) :
    firstPiece (char :: rest) = [] := by
  unfold firstPiece
  rw [List.takeWhile_cons, boundary]
  rfl

namespace LineScan

/-- After characters that end lines only, the scan is at the start of a line. -/
theorem read_boundaries (scan : LineScan) {ending : List Char}
    (ends : ∀ char ∈ ending, isLineBoundary char) (more : ending ≠ []) :
    scan.read ending = scan.nextLine := by
  induction ending generalizing scan with
  | nil => exact (more rfl).elim
  | cons char rest ih =>
      change (scan.feed char).read rest = _
      rw [scan.feed_boundary (ends char List.mem_cons_self)]
      cases rest with
      | nil => rfl
      | cons second rest =>
          rw [ih scan.nextLine (fun other member => ends other (List.mem_cons_of_mem _ member))
            (List.cons_ne_nil _ _), nextLine_nextLine]

/-- Only the first piece of a text counts if no other one changes the fence. -/
theorem read_firstPiece (text : List Char) (scan : LineScan)
    (plain : ∀ before char after, text = before ++ char :: after → isLineBoundary char →
      fenceAfterText (fenceAfterText scan.openFence (scan.line ++ firstPiece text))
        (firstPiece after) =
        fenceAfterText scan.openFence (scan.line ++ firstPiece text)) :
    (scan.read text).fence = fenceAfterText scan.openFence (scan.line ++ firstPiece text) := by
  induction text generalizing scan with
  | nil =>
      change scan.fence = fenceAfterText scan.openFence (scan.line ++ [])
      rw [List.append_nil]
      rfl
  | cons char rest ih =>
      change ((scan.feed char).read rest).fence = _
      by_cases boundary : isLineBoundary char
      · rw [firstPiece_boundary boundary, List.append_nil] at plain ⊢
        have next : fenceAfterText scan.nextLine.openFence (scan.nextLine.line ++ firstPiece rest) =
            fenceAfterText scan.openFence scan.line := plain [] char rest rfl boundary
        rw [scan.feed_boundary boundary, ih scan.nextLine, next]
        intro before other after split ends
        rw [next]
        exact plain (char :: before) other after (by rw [split, List.cons_append]) ends
      · have inside := Bool.eq_false_iff.mpr boundary
        obtain ⟨fence, line⟩ := scan.feed_line inside
        have same : scan.line ++ firstPiece (char :: rest) =
            (scan.feed char).line ++ firstPiece rest := by
          rw [firstPiece_cons inside, line, List.append_assoc, List.singleton_append]
        rw [same, ← fence] at plain ⊢
        apply ih (scan.feed char)
        intro before other after split ends
        exact plain (char :: before) other after (by rw [split, List.cons_append]) ends

/-- At the start of a line the fence is the one that was open before it. -/
theorem fence_of_fresh {scan : LineScan} (fresh : scan.line = []) : scan.fence =
    scan.openFence := by
  unfold fence
  rw [fresh]
  exact fenceAfterText_nil _

/-- Reading a line from its start on leaves the fence that the scanner has after it. -/
theorem read_line_fence {scan : LineScan} (fresh : scan.line = []) (line : List Char) :
    (scan.read line).fence = scannerFence scan.openFence line := by
  rw [read_fence]
  unfold scannerFence
  cases splitLinesKeepEnds line with
  | nil => exact fence_of_fresh fresh
  | cons first lines =>
      unfold fenceAfterLines
      rw [fresh]
      rfl

/-- The end of a line consists of characters that end lines. -/
theorem lineEnds_boundary (line : List Char) :
    ∀ char ∈ line.rtakeWhile isLineEnd, isLineBoundary char := fun _ member =>
  isLineBoundary_of_isLineEnd (List.mem_rtakeWhile_imp member)

/-- The end of a line does not change the fence. -/
theorem read_lineContent (scan : LineScan) (line : List Char) :
    (scan.read line).fence = (scan.read (lineContent line)).fence := by
  have whole : line = lineContent line ++ line.rtakeWhile isLineEnd :=
    (List.rdropWhile_append_rtakeWhile).symm
  conv => lhs; rw [whole, read_append]
  by_cases bare : line.rtakeWhile isLineEnd = []
  · rw [bare]
    rfl
  · rw [read_boundaries _ (lineEnds_boundary line) bare, nextLine_fence]

/-- After the end of a line the scan is at the start of the next. -/
theorem read_endsLine (scan : LineScan) {line : List Char} (ends : EndsLine line) :
    (scan.read line).line = [] := by
  obtain ⟨char, last, isEnd⟩ := ends
  obtain ⟨before, rfl⟩ := List.getLast?_eq_some_iff.mp last
  rw [read_append]
  change ((scan.read before).feed char).line = []
  rw [feed_boundary _ (isLineBoundary_of_isLineEnd isEnd)]
  rfl

/-- Reading lines one after the other. -/
theorem read_lines {scan : LineScan} (fresh : scan.line = []) (lines : List (List Char))
    (ended : ∀ line ∈ lines.dropLast, EndsLine line) :
    (scan.read lines.flatten).fence = lines.foldl scannerFence scan.openFence := by
  induction lines generalizing scan with
  | nil => exact fence_of_fresh fresh
  | cons line lines ih =>
      rw [List.flatten_cons, read_append, List.foldl_cons, ← read_line_fence fresh]
      cases lines with
      | nil => rfl
      | cons second lines =>
          rw [List.dropLast_cons_cons] at ended
          have next := scan.read_endsLine (ended line List.mem_cons_self)
          rw [fence_of_fresh next]
          exact ih next fun other member => ended other (List.mem_cons_of_mem _ member)

end LineScan

/-- `_unclosed_fence`, line by line. -/
theorem unclosedFence_lines {text : List Char} {read later : List (List Char)}
    (split : commonMarkLines text = read ++ later) :
    unclosedFence read.flatten = read.foldl scannerFence none := by
  rw [unclosedFence_eq]
  apply LineScan.read_lines rfl read
  intro line member
  apply commonMarkLines_endsLine text line
  rw [split]
  cases later with
  | nil => rwa [List.append_nil]
  | cons next later =>
      rw [List.dropLast_append_cons]
      exact List.mem_append_left _ (List.mem_of_mem_dropLast member)

/-- `_neutralize_lark_mentions` goes on after each line with the same fence as `_unclosed_fence`. -/
theorem neutralizeLarkMentions_lines {text : List Char} {read later : List (List Char)}
    (split : commonMarkLines text = read ++ later) (more : later ≠ []) :
    ∃ settled, neutralizeLarkMentions text = settled ++
      (neutralizeLines (unclosedFence read.flatten) (splitLinesKeepEnds later.flatten)).flatten :=
      by
  have whole : text = read.flatten ++ later.flatten := by
    rw [← List.flatten_append, ← split, commonMarkLines_flatten]
  have fresh : (LineScan.start.read read.flatten).line = [] := by
    rcases List.eq_nil_or_concat' read with rfl | ⟨before, line, rfl⟩
    · rfl
    · rw [List.flatten_append, LineScan.read_append]
      have ends : EndsLine line := by
        apply commonMarkLines_endsLine text line
        obtain ⟨next, later, rfl⟩ := List.exists_cons_of_ne_nil more
        rw [split, List.dropLast_append_cons]
        exact List.mem_append_left _ (List.mem_append_right _ List.mem_cons_self)
      rw [List.flatten_cons, List.flatten_nil, List.append_nil]
      exact LineScan.read_endsLine _ ends
  have restart : (LineScan.start.read read.flatten).nextLine = LineScan.start.read read.flatten :=
    LineScan.ext (LineScan.fence_of_fresh fresh) fresh.symm
  obtain ⟨_, settled, splits, _⟩ := LineScan.start.neutralize_split read.flatten
  refine ⟨settled, ?_⟩
  rw [neutralizeLarkMentions_eq]
  conv => lhs; rw [whole, splits, ← restart]
  rw [LineScan.neutralize_eq, LineScan.neutralizeFirst_nextLine, unclosedFence_eq]

end Scanner

section Rule

variable {white : Char → Bool}

/-- The first piece of a text has no end of a line. -/
theorem firstPiece_unbroken (text : List Char) : Unbroken (firstPiece text) := by
  intro char member
  have inside := List.mem_takeWhile_imp (p := fun char => !isLineBoundary char) member
  rwa [Bool.not_eq_eq_eq_not, Bool.not_true] at inside

/-- The first piece ends where its text does, before what ends a line. -/
theorem firstPiece_append {part rest : List Char} (unbroken : Unbroken part)
    (stops : StopsAt (fun char => !isLineBoundary char) rest) : firstPiece
    (part ++ rest) = part := by
  refine takeWhile_append_of_all (fun char member => ?_) stops
  rw [unbroken char member]
  rfl

/-- What follows the first piece of a line only goes to the info string. -/
theorem matchFenceText_firstPiece (text : List Char) :
    ∃ rest, StopsAt (fun char => !isLineBoundary char) rest ∧ matchFenceText text =
      (matchFenceText (firstPiece text)).map fun (marker, info) => (marker, info ++ rest) := by
  have whole : firstPiece text ++ text.dropWhile (fun char => !isLineBoundary char) = text :=
    List.takeWhile_append_dropWhile
  have stops : StopsAt (fun char => !isLineBoundary char)
      (text.dropWhile fun char => !isLineBoundary char) := stopsAt_dropWhile _
  refine ⟨_, stops, ?_⟩
  conv => lhs; rw [← whole]
  cases ends : text.dropWhile (fun char => !isLineBoundary char) with
  | nil => exact matchFenceText_append _ fun _ absent => by cases absent
  | cons char more =>
      rw [ends] at stops
      have boundary : isLineBoundary char := by
        have here := stops char rfl
        rwa [Bool.not_eq_eq_eq_not, Bool.not_false] at here
      exact matchFenceText_from_plain _ (fencePlain_of_boundary boundary) more

/-- The info string of a line that matches ends with its first piece. -/
theorem firstPiece_info {text marker info rest : List Char}
    (matched : matchFenceText (firstPiece text) = some (marker, info))
    (stops : StopsAt (fun char => !isLineBoundary char) rest) : firstPiece
    (info ++ rest) = info := by
  obtain ⟨indent, _, split, _⟩ := matchFenceText_marker matched
  refine firstPiece_append (fun char member => firstPiece_unbroken text char ?_) stops
  rw [split]
  exact List.mem_append_right _ (List.mem_append_right _ member)

/-- A line with no hidden marker is read by its first piece. -/
theorem scannerFence_firstPiece {openFence : Option (Char × Nat)} {line : List Char}
    (valid : ∀ fence ∈ openFence, IsFence fence)
    (plain : ¬ HidesMarker openFence (lineContent line)) :
    scannerFence openFence line = fenceAfterText openFence (firstPiece (lineContent line)) := by
  let scan : LineScan := ⟨openFence, [], valid, fun _ absent => (by cases absent)⟩
  have fresh : scan.line = [] := rfl
  have before : scan.openFence = openFence := rfl
  rw [← before, ← LineScan.read_line_fence fresh, LineScan.read_lineContent,
    LineScan.read_firstPiece, fresh, List.nil_append]
  intro earlier char after split boundary
  by_contra differs
  exact plain ⟨earlier, char, after, split, boundary, differs⟩

/-- A line is read alike, or it leaves a fence open for one of the two only. -/
theorem fenceRuleKept_cases (spaces : ∀ char, white char → isSpaceChar char)
    (openFence : Option (Char × Nat)) (text : List Char) :
    (FenceRuleKept white openFence text ∧
        fenceAfterText openFence (firstPiece text) = commonMarkFence white openFence text) ∨
      (¬ FenceRuleKept white openFence text ∧ (fenceAfterText openFence (firstPiece text)).isSome =
        !(commonMarkFence white openFence text).isSome) := by
  obtain ⟨rest, stops, same⟩ := matchFenceText_firstPiece text
  unfold fenceAfterText commonMarkFence FenceRuleKept
  rw [same]
  cases matched : matchFenceText (firstPiece text) with
  | none => cases openFence <;> exact .inl ⟨trivial, rfl⟩
  | some found =>
      obtain ⟨marker, info⟩ := found
      have piece := firstPiece_info matched stops
      dsimp only [Option.map_some]
      cases openFence with
      | none =>
          obtain ⟨char, fence, _⟩ := markerFence_of_matched matched
          dsimp only
          rw [fence]
          by_cases backticks : marker.head? = some '`' ∧ '`' ∈ info ++ rest
          · rw [if_pos backticks]
            exact .inr ⟨fun kept => kept backticks, rfl⟩
          · rw [if_neg backticks]
            exact .inl ⟨backticks, rfl⟩
      | some openFence =>
          dsimp only
          rw [piece]
          by_cases closes : closesText marker info openFence
          · have sameFence := (Bool.and_eq_true_iff.mp closes).1
            rw [if_pos closes, sameFence, Bool.true_and]
            by_cases blank : (info ++ rest).all white
            · rw [if_pos blank]
              exact .inl ⟨fun _ => blank, rfl⟩
            · rw [if_neg blank]
              exact .inr ⟨fun kept => blank (kept closes), rfl⟩
          · have continues : ¬ ((markerFence marker).any (fun fence => fence.1 == openFence.1 &&
                openFence.2 ≤ fence.2) && (info ++ rest).all white) := by
              intro ends
              obtain ⟨sameFence, blank⟩ := Bool.and_eq_true_iff.mp ends
              refine closes (Bool.and_eq_true_iff.mpr ⟨sameFence, ?_⟩)
              rw [List.all_append] at blank
              refine List.all_eq_true.mpr fun char member => spaces char ?_
              exact List.all_eq_true.mp (Bool.and_eq_true_iff.mp blank).1 char member
            rw [if_neg closes, if_neg continues]
            exact .inl ⟨fun impossible => (closes impossible).elim, rfl⟩

/-- Where no marker is hidden, the two agree on whether a fence is open exactly where
the rule is kept. -/
theorem scannerFence_told (spaces : ∀ char, white char → isSpaceChar char)
    {openFence : Option (Char × Nat)} {line : List Char}
    (valid : ∀ fence ∈ openFence, IsFence fence)
    (shown : ¬ HidesMarker openFence (lineContent line)) :
    (scannerFence openFence line).isSome =
        (commonMarkFence white openFence (lineContent line)).isSome ↔
      FenceRuleKept white openFence (lineContent line) := by
  rw [scannerFence_firstPiece valid shown]
  rcases fenceRuleKept_cases spaces openFence (lineContent line) with
      ⟨kept, same⟩ | ⟨broken, differs⟩
  · rw [same]
    exact ⟨fun _ => kept, fun _ => rfl⟩
  · rw [differs]
    exact ⟨fun same => ((Bool.not_eq_self _).mp same).elim, fun kept => (broken kept).elim⟩

/-- Where no marker is hidden and the rule is kept, the two have the same fence open. -/
theorem scannerFence_of_kept (spaces : ∀ char, white char → isSpaceChar char)
    {openFence : Option (Char × Nat)} {line : List Char}
    (valid : ∀ fence ∈ openFence, IsFence fence)
    (shown : ¬ HidesMarker openFence (lineContent line))
    (kept : FenceRuleKept white openFence (lineContent line)) :
    scannerFence openFence line = commonMarkFence white openFence (lineContent line) := by
  rw [scannerFence_firstPiece valid shown]
  rcases fenceRuleKept_cases spaces openFence (lineContent line) with ⟨_, same⟩ | ⟨broken, _⟩
  · exact same
  · exact (broken kept).elim

/-- Where no line hides a marker, the scanner has a fence open after each line exactly when
CommonMark does if and only if each line keeps the rule. This is the fence that the renderer goes
on with after the line. -/
theorem fence_rule_iff (spaces : ∀ char, white char → isSpaceChar char) (text : List Char) :
    ((∀ read line later, commonMarkLines text = read ++ line :: later →
        ¬ HidesMarker (commonMarkFences white read) (lineContent line)) →
      ((∀ read later, commonMarkLines text = read ++ later →
          (unclosedFence read.flatten).isSome = (commonMarkFences white read).isSome) ↔
        ∀ read line later, commonMarkLines text = read ++ line :: later →
          FenceRuleKept white (commonMarkFences white read) (lineContent line))) ∧
    ∀ read later, commonMarkLines text = read ++ later → later ≠ [] →
      ∃ settled, neutralizeLarkMentions text = settled ++
        (neutralizeLines (unclosedFence read.flatten) (splitLinesKeepEnds later.flatten)).flatten :=
        by
  refine ⟨fun shown => ?_, fun _ _ split more => neutralizeLarkMentions_lines split more⟩
  have lockstep := @foldl_observe_iff _ _ _ scannerFence
    (fun openFence line => commonMarkFence white openFence (lineContent line)) Option.isSome
    (fun openFence line => (∀ fence ∈ openFence, IsFence fence) ∧
      ¬ HidesMarker openFence (lineContent line))
    (fun openFence line => FenceRuleKept white openFence (lineContent line))
    (fun _ _ plain => scannerFence_told spaces plain.1 plain.2)
    (fun _ _ plain kept => scannerFence_of_kept spaces plain.1 plain.2 kept)
    (commonMarkLines text) none fun read line later split =>
      ⟨commonMarkFences_isFence white read, shown read line later split⟩
  refine Iff.trans ⟨fun agree read later split => ?_, fun agree read later split => ?_⟩ lockstep
  · rw [← unclosedFence_lines split]
    exact agree read later split
  · rw [unclosedFence_lines split]
    exact agree read later split

/-- A line with nothing after its marker is read alike. -/
theorem fenceRuleKept_of_bare {text : List Char}
    (bare : ∀ found ∈ matchFenceText text, found.2 = [])
    (openFence : Option (Char × Nat)) : FenceRuleKept white openFence text := by
  unfold FenceRuleKept
  cases matched : matchFenceText text with
  | none => cases openFence <;> exact trivial
  | some found =>
      obtain ⟨marker, info⟩ := found
      have empty : info = [] := bare (marker, info) matched
      subst empty
      cases openFence with
      | none => exact fun backticks => List.not_mem_nil backticks.2
      | some openFence => exact fun _ => rfl

/-- A text on one line hides no marker. -/
theorem not_hidesMarker_of_unbroken {text : List Char} (unbroken : Unbroken text)
    (openFence : Option (Char × Nat)) : ¬ HidesMarker openFence text := by
  rintro ⟨before, char, after, rfl, boundary, _⟩
  have inside := unbroken char (List.mem_append_right _ List.mem_cons_self)
  rw [boundary] at inside
  cases inside

def spaceOrTab (char : Char) : Bool := char == ' ' || char == '\t'

/-- Spaces and tabs are white space for `strip`. -/
theorem isSpaceChar_of_spaceOrTab : ∀ char, spaceOrTab char → isSpaceChar char := by
  intro char white
  rcases Bool.or_eq_true_iff.mp white with same | same <;> rw [beq_iff_eq.mp same] <;> decide

def tildeBlock : List Char := "~~~\n<at id=all></at>\r\n~~~~\nNotify".toList

/-- The scanner follows CommonMark into a block of tildes. -/
theorem tilde_block_follows :
    (unclosedFence ((commonMarkLines tildeBlock).take 2).flatten).isSome =
      (commonMarkFences spaceOrTab ((commonMarkLines tildeBlock).take 2)).isSome := by
  have none : ∀ line ∈ commonMarkLines tildeBlock,
      (lineContent line).all (fun char => isLineBoundary char == false) = true := by
    decide +kernel
  have unbroken : ∀ line ∈ commonMarkLines tildeBlock, Unbroken (lineContent line) :=
    fun line listed char member => beq_iff_eq.mp (List.all_eq_true.mp (none line listed) char
      member)
  have bare : ∀ line ∈ commonMarkLines tildeBlock,
      ∀ found ∈ matchFenceText (lineContent line), found.2 = [] := by
    decide +kernel
  refine ((fence_rule_iff isSpaceChar_of_spaceOrTab _).1 fun read line later split => ?_).mpr
    (fun read line later split => ?_) _ _ (List.take_append_drop 2 _).symm
  · refine not_hidesMarker_of_unbroken (unbroken line ?_) _
    rw [split]
    exact List.mem_append_right _ List.mem_cons_self
  · refine fenceRuleKept_of_bare (bare line ?_) _
    rw [split]
    exact List.mem_append_right _ List.mem_cons_self

/-- A backtick in the info string makes a fence for the scanner only, so that a mention after it
stays live. A vertical tab starts a line for it, and a space that does not break ends a block. -/
theorem fence_rule_differs :
    (let text := "```a`b\n<at id=all></at>".toList
     commonMarkFences spaceOrTab (commonMarkLines text) = none ∧
       unclosedFence text = some ('`', 3) ∧ neutralizeLarkMentions text = text) ∧
    (let text := "x\x0b```\n<at id=all></at>".toList
     commonMarkFences spaceOrTab (commonMarkLines text) = none ∧
       unclosedFence text = some ('`', 3) ∧ neutralizeLarkMentions text = text) ∧
    (let text := "```\n```\u00a0\n<at id=all></at>".toList
     commonMarkFences spaceOrTab (commonMarkLines text) = some ('`', 3) ∧
       unclosedFence text = none ∧ neutralizeLarkMentions text ≠ text) := by
  decide +kernel

end Rule

end LarkBot
