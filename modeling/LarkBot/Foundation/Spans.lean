import Mathlib.Data.List.TakeWhile

/-! # Spans of a class

The longest prefix inside a class ends where an item outside the class comes first: what follows
such an item has no influence on it.
-/

namespace Foundation

variable {α : Type*} {member : α → Bool}

/-- No item of the class comes first. -/
def StopsAt (member : α → Bool) (rest : List α) : Prop := ∀ item ∈ rest.head?, member item = false

/-- A span stops at the end of the list. -/
theorem stopsAt_nil : StopsAt member [] := fun _ absent => by cases absent

/-- A span stops at an item outside of it. -/
theorem stopsAt_cons {item : α} {rest : List α} (outside : member item = false) :
    StopsAt member (item :: rest) := by
  intro other same
  cases same
  exact outside

/-- What is taken from the items is the same with a rest after them at which the span
stops. -/
theorem takeWhile_append_of_stopsAt (items : List α) {rest : List α} (stops : StopsAt member rest) :
    (items ++ rest).takeWhile member = items.takeWhile member := by
  induction items with
  | nil =>
      cases rest with
      | nil => rfl
      | cons item rest => rw [List.nil_append, List.takeWhile_cons, stops item rfl]; rfl
  | cons item items ih =>
      rw [List.cons_append, List.takeWhile_cons, List.takeWhile_cons, ih]

/-- What is left of the items keeps a rest after them at which the span stops. -/
theorem dropWhile_append_of_stopsAt (items : List α) {rest : List α} (stops : StopsAt member rest) :
    (items ++ rest).dropWhile member = items.dropWhile member ++ rest := by
  induction items with
  | nil =>
      cases rest with
      | nil => rfl
      | cons item rest => rw [List.nil_append, List.dropWhile_cons, stops item rfl]; rfl
  | cons item items ih =>
      rw [List.cons_append, List.dropWhile_cons, List.dropWhile_cons, ih]
      split
      · rfl
      · rfl

/-- What follows the longest prefix inside the class does not start in the class. -/
theorem stopsAt_dropWhile (items : List α) : StopsAt member (items.dropWhile member) := by
  intro item head
  have stops := List.head?_dropWhile_not member items
  rw [Option.mem_def.mp head] at stops
  exact stops

/-- Items of the class, and what does not continue them, are the span and its rest. -/
theorem takeWhile_append_of_all {items rest : List α} (inside : ∀ item ∈ items, member item)
    (stops : StopsAt member rest) : (items ++ rest).takeWhile member = items := by
  rw [takeWhile_append_of_stopsAt items stops]
  exact List.takeWhile_eq_self_iff.mpr inside

/-- Items that are all inside the span leave the rest at which it stops. -/
theorem dropWhile_append_of_all {items rest : List α} (inside : ∀ item ∈ items, member item)
    (stops : StopsAt member rest) : (items ++ rest).dropWhile member = rest := by
  rw [dropWhile_append_of_stopsAt items stops, List.dropWhile_eq_nil_iff.mpr inside,
    List.nil_append]

end Foundation
