import LarkBot.Lark.LineTags

/-! # Positions of tags and of entities

A result reads like its text with entities for the characters at some positions
(`LarkBot.EscapedAt`). What precedes a position determines how much of the result it became
(`LarkBot.EscapedAt.unique`), so a part of the result belongs to a part of the text. Escaping puts
entities at the brackets of tags only (`LarkBot.escapedAt_escapeLarkAtTags`).
-/

namespace LarkBot

open Foundation

section Slices

/-- Two slices that meet are the slice from the start of one to the stop of the other. -/
theorem slice_append_slice {text : List Char} {start middle stop : Nat} (first : start ≤ middle)
    (second : middle ≤ stop) : slice text start middle ++ slice text middle stop =
    slice text start stop := by
  have rest := @slice_append (text.take stop) start middle first
  unfold slice at rest ⊢
  rwa [List.take_take, Nat.min_eq_left second] at rest

/-- A slice within a text is as long as its bounds are apart. -/
theorem length_slice {text : List Char} {start stop : Nat} (inside : stop ≤ text.length) :
    (slice text start stop).length = stop - start := by
  unfold slice
  rw [List.length_drop, List.length_take, Nat.min_eq_left inside]

/-- A tag of the text, by its positions. -/
structure TagAt (text : List Char) (start stop : Nat) : Prop where
  ordered : start ≤ stop
  inside : stop ≤ text.length
  isTag : IsAtTag (slice text start stop)

/-- A tag takes at least one place. -/
theorem TagAt.start_lt {text : List Char} {start stop : Nat} (tagAt : TagAt text start stop) :
    start < stop := by
  have positive := List.length_pos_iff.mpr tagAt.isTag.ne_nil
  rw [length_slice tagAt.inside] at positive
  omega

/-- The first place of a tag is its opening bracket. -/
theorem TagAt.slice_start {text : List Char} {start stop : Nat} (tagAt : TagAt text start stop) :
    slice text start (start + 1) = ['<'] := by
  obtain ⟨inner, _, same⟩ := tagAt.isTag
  have bounded := tagAt.inside
  have long := tagAt.start_lt
  have one : (slice text start (start + 1)).length = ['<'].length := by
    rw [length_slice (by omega), List.length_singleton]
    omega
  have split : slice text start (start + 1) ++ slice text (start + 1) stop =
      ['<'] ++ (inner ++ ['>']) := by
    rw [slice_append_slice (Nat.le_succ _) long, same]
    rfl
  exact (List.append_inj split one).1

/-- The last place of a tag is its closing bracket. -/
theorem TagAt.slice_stop {text : List Char} {start last : Nat}
    (tagAt : TagAt text start (last + 1)) :
    slice text last (last + 1) = ['>'] := by
  obtain ⟨inner, _, same⟩ := tagAt.isTag
  have bounded := tagAt.inside
  have long := tagAt.start_lt
  have one : (slice text last (last + 1)).length = ['>'].length := by
    rw [length_slice bounded, List.length_singleton]
    omega
  have split : slice text start last ++ slice text last (last + 1) = ('<' :: inner) ++ ['>'] := by
    rw [slice_append_slice (by omega) (Nat.le_succ _), same, List.cons_append]
  exact (List.append_inj' split one).2

/-- Tags that start at one place are one tag. -/
theorem TagAt.stop_le {text : List Char} {start stop later : Nat} (tagAt : TagAt text start stop)
    (other : TagAt text start later) : later ≤ stop := by
  by_contra longer
  have after : stop < later := Nat.lt_of_not_le longer
  obtain ⟨inner, body, same⟩ := tagAt.isTag
  obtain ⟨outer, wider, alike⟩ := other.isTag
  have whole := @slice_append_slice text start stop later tagAt.ordered after.le
  rw [same, alike, List.cons_append, List.append_assoc] at whole
  have images := (List.cons.inj whole).2
  have positive : (slice text stop later).length = later - stop := length_slice other.inside
  -- The longer tag would have the end of the shorter one inside.
  have lengths := congrArg List.length images
  simp only [List.length_append, List.length_singleton] at lengths
  have closes : '>' ∈ outer := by
    have shorter : inner.length < outer.length := by omega
    have here := congrArg (fun chars => chars[inner.length]?) images
    simp only [List.getElem?_append_right (Nat.le_refl inner.length), Nat.sub_self,
      List.singleton_append, List.getElem?_cons_zero, List.getElem?_append_left shorter] at here
    exact List.mem_of_getElem? here.symm
  exact wider.bracketless.2 closes

/-- A piece of what remains of a text is a slice of the text. -/
theorem slice_of_drop {text before piece after : List Char} {cursor : Nat}
    (inside : cursor ≤ text.length)
    (split : text.drop cursor = before ++ (piece ++ after)) :
    cursor + before.length + piece.length ≤ text.length ∧
      slice text (cursor + before.length) (cursor + before.length + piece.length) = piece ∧
      slice text cursor (cursor + before.length) = before := by
  have lengths := congrArg List.length split
  simp only [List.length_drop, List.length_append] at lengths
  have whole : text = text.take cursor ++ (before ++ (piece ++ after)) := by
    rw [← split, List.take_append_drop]
  have taken : (text.take cursor).length = cursor := by
    rw [List.length_take, Nat.min_eq_left inside]
  refine ⟨by omega, ?_, ?_⟩
  · have upTo : text.take (cursor + before.length + piece.length) =
        (text.take cursor ++ before) ++ piece := by
      have length : cursor + before.length + piece.length =
          ((text.take cursor ++ before) ++ piece).length := by
        simp only [List.length_append, taken]
      rw [length]
      conv => lhs; arg 2; rw [whole]
      rw [← List.append_assoc, ← List.append_assoc, List.take_left]
    have length : cursor + before.length = (text.take cursor ++ before).length := by
      rw [List.length_append, taken]
    unfold slice
    rw [upTo, length, List.drop_left]
  · have upTo : text.take (cursor + before.length) = text.take cursor ++ before := by
      have length : cursor + before.length = (text.take cursor ++ before).length := by
        rw [List.length_append, taken]
      rw [length]
      conv => lhs; arg 2; rw [whole]
      rw [← List.append_assoc, List.take_left]
    unfold slice
    rw [upTo]
    conv => lhs; arg 1; rw [← taken]
    exact List.drop_left

/-- A tag that is found in what is left of a text stands as far after the cursor as it
was found. -/
theorem tagAt_of_drop {text before tag after : List Char} {cursor : Nat}
    (inside : cursor ≤ text.length)
    (tagged : IsAtTag tag) (split : text.drop cursor = before ++ (tag ++ after)) :
    TagAt text (cursor + before.length) (cursor + before.length + tag.length) := by
  obtain ⟨bounded, same, _⟩ := slice_of_drop inside split
  exact ⟨Nat.le_add_right _ _, bounded, by rw [same]; exact tagged⟩

end Slices

section Entities

/-- The result is the text, from this position on, with entities for characters at some of the
allowed positions. -/
inductive EscapedAt (allowed : Nat → Prop) : Nat → List Char → List Char → Prop
  | nil (position : Nat) : EscapedAt allowed position [] []
  | keep {position : Nat} {text result : List Char} (char : Char) :
      EscapedAt allowed (position + 1) text result →
        EscapedAt allowed position (char :: text) (char :: result)
  | entity {position : Nat} {text result : List Char} (char : Char) : allowed position →
      EscapedAt allowed (position + 1) text result →
        EscapedAt allowed position (char :: text) (bracketEntity char ++ result)

namespace EscapedAt

variable {allowed other : Nat → Prop} {position : Nat}
    {text result first second left right : List Char}

/-- What may be escaped at some places may be escaped at more. -/
theorem mono (escaped : EscapedAt allowed position text result)
    (more : ∀ place, allowed place → other place) : EscapedAt other position text result := by
  induction escaped with
  | nil position => exact .nil position
  | keep char _ ih => exact .keep char ih
  | entity char here _ ih => exact .entity char (more _ here) ih

/-- A text is escaped by itself, at no place. -/
theorem refl (position : Nat) (text : List Char) : EscapedAt allowed position text text := by
  induction text generalizing position with
  | nil => exact .nil position
  | cons char rest ih => exact .keep char (ih _)

/-- Two texts are escaped one after the other, the second at the places after the first. -/
theorem append (before : EscapedAt allowed position first left)
    (after : EscapedAt allowed (position + first.length) second right) :
    EscapedAt allowed position (first ++ second) (left ++ right) := by
  induction before with
  | nil => exact after
  | @keep position text result char _ ih =>
      refine .keep char (ih ?_)
      rw [List.length_cons] at after
      rwa [Nat.add_assoc, Nat.add_comm 1]
  | @entity position text result char here _ ih =>
      rw [List.append_assoc]
      refine .entity char here (ih ?_)
      rw [List.length_cons] at after
      rwa [Nat.add_assoc, Nat.add_comm 1]

/-- What escapes a text splits where the text does. -/
theorem split (escaped : EscapedAt allowed position (first ++ second) result) :
    ∃ left right, result = left ++ right ∧ EscapedAt allowed position first left ∧
      EscapedAt allowed (position + first.length) second right := by
  induction first generalizing position result with
  | nil => exact ⟨[], result, rfl, .nil position, escaped⟩
  | cons char rest ih =>
      rw [List.cons_append] at escaped
      generalize whole : char :: (rest ++ second) = text at escaped
      cases escaped with
      | nil => cases whole
      | @keep _ _ result _ later =>
          cases whole
          obtain ⟨left, right, rfl, before, after⟩ := ih later
          refine ⟨char :: left, right, rfl, .keep char before, ?_⟩
          rwa [Nat.add_assoc, Nat.add_comm 1] at after
      | @entity _ _ result _ here later =>
          cases whole
          obtain ⟨left, right, rfl, before, after⟩ := ih later
          refine ⟨bracketEntity char ++ left, right, (List.append_assoc _ _ _).symm,
            .entity char here before, ?_⟩
          rwa [Nat.add_assoc, Nat.add_comm 1] at after

/-- Where nothing may be escaped nothing is. -/
theorem eq_of_not_allowed (escaped : EscapedAt allowed position text result)
    (none : ∀ place, position ≤ place → place < position + text.length → ¬ allowed place) :
    result = text := by
  induction escaped with
  | nil => rfl
  | @keep position text result char _ ih =>
      rw [ih fun place after before => none place (Nat.le_of_succ_le after) (by
        rw [List.length_cons]
        omega)]
  | @entity position text _ char here _ _ =>
      refine (none position (Nat.le_refl _) ?_ here).elim
      rw [List.length_cons]
      omega

/-- The first character stands as it is, or at an allowed place as its entity. -/
theorem eq_or_entity {char : Char} (escaped : EscapedAt allowed position (char :: text) result) :
    ∃ later, EscapedAt allowed (position + 1) text later ∧
      (result = char :: later ∨
        (allowed position ∧ ∃ entity, bracketEntity char = '&' :: entity ∧ char ≠ '&' ∧
          result = bracketEntity char ++ later)) := by
  generalize whole : char :: text = read at escaped
  cases escaped with
  | nil => cases whole
  | @keep _ _ later _ after =>
      cases whole
      exact ⟨later, after, .inl rfl⟩
  | @entity _ _ later _ here after =>
      cases whole
      refine ⟨later, after, ?_⟩
      by_cases plain : bracketEntity char = [char]
      · rw [plain]
        exact .inl rfl
      · obtain ⟨entity, image⟩ := (bracketEntity_cases char).resolve_left plain
        refine .inr ⟨here, entity, image, fun same => plain ?_, rfl⟩
        rw [same]
        rfl

/-- What a text became can be told from what follows. -/
theorem unique (one : EscapedAt allowed position text first)
    (another : EscapedAt other position text second) (same : first ++ left = second ++ right) :
    first = second ∧ left = right := by
  induction text generalizing position first second with
  | nil =>
      cases one
      cases another
      exact ⟨rfl, same⟩
  | cons char rest ih =>
      obtain ⟨later, oneLater, kept⟩ := one.eq_or_entity
      obtain ⟨also, anotherLater, alike⟩ := another.eq_or_entity
      rcases kept with rfl | ⟨_, entity, image, unlike, rfl⟩
      · rcases alike with rfl | ⟨_, entity, image, unlike, rfl⟩
        · obtain ⟨rfl, rfl⟩ := ih oneLater anotherLater (List.cons.inj same).2
          exact ⟨rfl, rfl⟩
        · rw [image] at same
          exact (unlike (List.cons.inj same).1).elim
      · rcases alike with rfl | ⟨_, _, _, _, rfl⟩
        · rw [image] at same
          exact (unlike (List.cons.inj same).1.symm).elim
        · rw [List.append_assoc, List.append_assoc] at same
          obtain ⟨rfl, rfl⟩ := ih oneLater anotherLater (List.append_cancel_left same)
          exact ⟨rfl, rfl⟩

end EscapedAt

/-- Escaped somewhere, or nowhere. -/
abbrev PartlyEscaped : Nat → List Char → List Char → Prop := EscapedAt fun _ => True

/-- What a text became is the text where what follows is what followed it. -/
theorem PartlyEscaped.cancel {position : Nat} {text image left right : List Char}
    (reads : PartlyEscaped position text image) (same : image ++ left = text ++ right) :
    image = text ∧ left = right := by
  have whole : PartlyEscaped position text text := .refl position text
  exact reads.unique whole same

/-- A text with all its brackets escaped is partly escaped. -/
theorem partlyEscaped_escapeBrackets (position : Nat) (text : List Char) :
    PartlyEscaped position text (escapeBrackets text) := by
  induction text generalizing position with
  | nil => exact .nil position
  | cons char rest ih =>
      rw [escapeBrackets_cons]
      exact .entity char trivial (ih _)

/-- A text in which tags are escaped is partly escaped. -/
theorem partlyEscaped_of_rewritten {before after : List Char}
    (rewritten : Rewritten EscapesTag before after)
    (position : Nat) : PartlyEscaped position before after := by
  induction rewritten generalizing position with
  | nil => exact .nil position
  | keep char _ ih => exact .keep char (ih _)
  | replace replaced _ ih =>
      obtain ⟨_, rfl⟩ := escapesTag_iff.mp replaced
      exact (partlyEscaped_escapeBrackets position _).append (ih _)

/-- A bracket of a tag that starts at the cursor or later. -/
def TagBracket (text : List Char) (cursor place : Nat) : Prop :=
  ∃ start stop, TagAt text start stop ∧ cursor ≤ start ∧ (place = start ∨ place + 1 = stop)

/-- A tag is escaped at its first and at its last place only. -/
theorem escapedAt_tag {tag : List Char} (tagged : IsAtTag tag) (position : Nat) :
    EscapedAt (fun place => place = position ∨ place + 1 = position + tag.length) position tag
      (escapeBrackets tag) := by
  obtain ⟨inside, body, rfl⟩ := tagged
  rw [escapeBrackets_cons, escapeBrackets_append, escapeBrackets_of_bracketless body.bracketless]
  refine .entity '<' (.inl rfl) (EscapedAt.append (.refl _ inside) ?_)
  refine .entity '>' (.inr ?_) (.nil _)
  simp only [List.length_cons, List.length_append, List.length_nil]
  omega

/-- Escaping the rest of a text puts entities at brackets of its tags only. -/
theorem escapedAt_escapeLarkAtTags (text : List Char) {cursor : Nat}
    (inside : cursor ≤ text.length) :
    EscapedAt (TagBracket text cursor) cursor (text.drop cursor)
      (escapeLarkAtTags (text.drop cursor)) := by
  generalize remains : text.drop cursor = rest
  induction rest using atTag_induction generalizing cursor with
  | nil => exact .nil cursor
  | tagged tag rest isTag ih =>
      have split : text.drop cursor = [] ++ (tag ++ rest) := remains
      have here := tagAt_of_drop inside isTag split
      rw [List.length_nil, Nat.add_zero] at here
      have later : text.drop (cursor + tag.length) = rest := by
        rw [← List.drop_drop, remains, List.drop_left]
      rw [escapeLarkAtTags_tag isTag]
      refine ((escapedAt_tag isTag cursor).mono fun place bracket => ?_).append
        ((ih here.inside later).mono ?_)
      · exact ⟨cursor, cursor + tag.length, here, Nat.le_refl _, bracket⟩
      · rintro place ⟨start, stop, tagAt, after, bracket⟩
        exact ⟨start, stop, tagAt, (Nat.le_add_right _ _).trans after, bracket⟩
  | plain char rest unmatched ih =>
      have longer : cursor + 1 ≤ text.length := by
        have lengths := congrArg List.length remains
        rw [List.length_drop, List.length_cons] at lengths
        omega
      have later : text.drop (cursor + 1) = rest := by
        rw [← List.drop_drop, remains]
        rfl
      rw [escapeLarkAtTags_plain unmatched]
      refine .keep char ((ih longer later).mono ?_)
      rintro place ⟨start, stop, tagAt, after, bracket⟩
      exact ⟨start, stop, tagAt, (Nat.le_succ _).trans after, bracket⟩

end Entities

end LarkBot
