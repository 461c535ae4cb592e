import Mathlib.Data.List.Basic

/-! # Rewriting pieces of a sequence

A sequence is rewritten when pairwise disjoint pieces of it are replaced and every other
item is kept in place (`Foundation.Rewritten`). Substituting the matches of a pattern from
left to right rewrites a sequence (`Foundation.rewritten_subMatches`).
-/

namespace Foundation

variable {α : Type*}

/-- `after` is `before` with disjoint pieces replaced. -/
inductive Rewritten (Replaces : List α → List α → Prop) : List α → List α → Prop
  | nil : Rewritten Replaces [] []
  | keep {before after : List α} (item : α) :
      Rewritten Replaces before after → Rewritten Replaces (item :: before) (item :: after)
  | replace {before after piece replacement : List α} : Replaces piece replacement →
      Rewritten Replaces before after →
        Rewritten Replaces (piece ++ before) (replacement ++ after)

/-- Replace every match of a pattern, from left to right; `covered` items belong to the last
match. -/
def subMatches (match? : List α → Option Nat) (replacement : List α → List α) :
    (covered : Nat) → List α → List α
  | _, [] => []
  | covered + 1, _ :: rest => subMatches match? replacement covered rest
  | 0, item :: rest =>
      match match? (item :: rest) with
      | some length => replacement ((item :: rest).take length) ++
          subMatches match? replacement (length - 1) rest
      | none => item :: subMatches match? replacement 0 rest

namespace Rewritten

variable {Replaces : List α → List α → Prop} {before after first second : List α}

/-- A list is rewritten to itself when nothing is replaced. -/
theorem refl (items : List α) : Rewritten Replaces items items := by
  induction items with
  | nil => exact .nil
  | cons item rest ih => exact .keep item ih

/-- Two lists are rewritten one after the other. -/
theorem append (start : Rewritten Replaces before after) (rest : Rewritten Replaces first second) :
    Rewritten Replaces (before ++ first) (after ++ second) := by
  induction start with
  | nil => exact rest
  | keep item _ ih => exact .keep item ih
  | replace replaced _ ih =>
      rw [List.append_assoc, List.append_assoc]
      exact .replace replaced ih

/-- Pieces that are each rewritten make a rewritten list. -/
theorem flatten {pieces rewritten : List (List α)}
    (each : List.Forall₂ (Rewritten Replaces) pieces rewritten) :
    Rewritten Replaces pieces.flatten rewritten.flatten := by
  induction each with
  | nil => exact .nil
  | cons piece _ ih => exact piece.append ih

/-- What maps every item, and does not tell a piece from its replacement, does not tell a
sequence from its rewriting. -/
theorem flatMap_eq {β : Type*} {image : α → List β} (rewritten : Rewritten Replaces before after)
    (same : ∀ piece replacement, Replaces piece replacement →
      replacement.flatMap image = piece.flatMap image) :
    after.flatMap image = before.flatMap image := by
  induction rewritten with
  | nil => rfl
  | keep item _ ih => rw [List.flatMap_cons, List.flatMap_cons, ih]
  | replace replaced _ ih =>
      rw [List.flatMap_append, List.flatMap_append, ih, same _ _ replaced]

end Rewritten

section Substitution

variable {match? : List α → Option Nat} {replacement : List α → List α}

/-- What a match has covered is skipped. -/
theorem subMatches_covered (text : List α) (covered : Nat) :
    subMatches match? replacement covered text =
      subMatches match? replacement 0 (text.drop covered) := by
  induction covered generalizing text with
  | zero => rfl
  | succ covered ih =>
      cases text with
      | nil => rfl
      | cons item rest => exact ih rest

/-- An item where nothing matches is kept. -/
theorem subMatches_of_none {item : α} {rest : List α} (unmatched : match? (item :: rest) = none) :
    subMatches match? replacement 0 (item :: rest) =
      item :: subMatches match? replacement 0 rest := by
  conv => lhs; unfold subMatches
  rw [unmatched]

/-- A match at the start is replaced, and substitution goes on after it. -/
theorem subMatches_of_match {piece rest : List α} (positive : piece ≠ [])
    (matched : match? (piece ++ rest) = some piece.length) :
    subMatches match? replacement 0 (piece ++ rest) =
      replacement piece ++ subMatches match? replacement 0 rest := by
  obtain ⟨item, tail, rfl⟩ := List.exists_cons_of_ne_nil positive
  rw [List.cons_append] at matched ⊢
  conv => lhs; unfold subMatches
  rw [matched]
  dsimp only
  rw [subMatches_covered, List.length_cons, Nat.add_sub_cancel, List.drop_left, ← List.cons_append,
    ← List.length_cons, List.take_left]

/-- What a match and its replacement are. -/
def ReplacesMatch (match? : List α → Option Nat) (replacement : List α → List α)
    (piece result : List α) : Prop :=
  ∃ text length, match? text = some length ∧ piece = text.take length ∧ result = replacement piece

/-- Substitution rewrites. -/
theorem rewritten_subMatches (positive : ∀ text length, match? text = some length → 0 < length)
    (text : List α) :
    Rewritten (ReplacesMatch match? replacement) text (subMatches match? replacement 0 text) := by
  induction size : text.length using Nat.strongRecOn generalizing text with
  | _ size ih =>
      subst size
      cases text with
      | nil => exact .nil
      | cons item rest =>
          cases matched : match? (item :: rest) with
          | none =>
              unfold subMatches
              rw [matched]
              exact .keep item (ih rest.length (Nat.lt_succ_self _) rest rfl)
          | some length =>
              obtain ⟨shorter, rfl⟩ := Nat.exists_eq_succ_of_ne_zero
                (Nat.pos_iff_ne_zero.mp (positive _ _ matched))
              unfold subMatches
              rw [matched]
              dsimp only
              rw [subMatches_covered]
              have split : item :: rest =
                  (item :: rest).take (shorter + 1) ++ rest.drop shorter := by
                rw [List.take_succ_cons, List.cons_append, List.take_append_drop]
              have smaller : (rest.drop shorter).length < (item :: rest).length := by
                rw [List.length_drop, List.length_cons]
                omega
              have later := ih _ smaller (rest.drop shorter) rfl
              conv => arg 2; rw [split]
              exact .replace ⟨_, _, matched, rfl, rfl⟩ later

end Substitution

end Foundation
