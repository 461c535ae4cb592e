import Mathlib.Data.List.Basic

/-! # Fair locks

A lock with its holder and the queue of those who wait for it. Who comes to a
lock that is free and has no queue holds it at once; a released lock goes to the
head of the queue. The items of a lock are the work done, or waiting to be done,
under it.
-/

namespace Foundation

/-- A lock: the item that holds it, and the items that wait for it in order. -/
structure FairLock (α : Type*) where
  holder : Option α
  waiting : List α

namespace FairLock

variable {α : Type*}

/-- The lock that nobody holds. -/
def free : FairLock α := ⟨none, []⟩

/-- Whether a newcomer gets the lock at once. -/
def isIdle (lock : FairLock α) : Bool := lock.holder.isNone && lock.waiting.isEmpty

/-- Come to the lock: hold it at once, or queue. -/
def enter (lock : FairLock α) (item : α) : FairLock α :=
  if lock.isIdle then ⟨some item, []⟩ else { lock with waiting := lock.waiting ++ [item] }

/-- Give the lock back. -/
def release (lock : FairLock α) : FairLock α := { lock with holder := none }

/-- The head of the queue takes a lock that was given back. -/
def grant? (lock : FairLock α) : Option (α × FairLock α) :=
  match lock.holder, lock.waiting with
  | none, item :: rest => some (item, ⟨some item, rest⟩)
  | _, _ => none

/-- Leave the queue. -/
def leave (lock : FairLock α) (leaves : α → Bool) : FairLock α :=
  { lock with waiting := lock.waiting.filter fun item => !leaves item }

/-- The items under the lock: the holder first, then the queue. -/
def items (lock : FairLock α) : List α := lock.holder.toList ++ lock.waiting

variable {lock : FairLock α} {item other : α}

/-- There is no work at a lock that nobody holds. -/
@[simp] theorem items_free : (free : FairLock α).items = [] := rfl

/-- A newcomer gets the lock at once exactly when nobody holds it and nobody waits. -/
theorem isIdle_iff : lock.isIdle ↔ lock.holder = none ∧ lock.waiting = [] := by
  simp only [isIdle, Bool.and_eq_true, Option.isNone_iff_eq_none, List.isEmpty_iff]

/-- Whoever comes to a lock comes after all the others. -/
@[simp] theorem items_enter : (lock.enter item).items = lock.items ++ [item] := by
  unfold enter
  by_cases idle : lock.isIdle
  · obtain ⟨unheld, empty⟩ := isIdle_iff.mp idle
    simp only [idle, ↓reduceIte, items, unheld, empty, Option.toList_some, Option.toList_none,
      List.append_nil, List.nil_append]
  · simp only [idle, Bool.false_eq_true, ↓reduceIte, items, List.append_assoc]

/-- A newcomer changes the holder only by becoming it. -/
theorem holder_enter : (lock.enter item).holder =
    if lock.isIdle then some item else lock.holder := by
  unfold enter
  split <;> rfl

/-- The holder gives the lock back, and the queue stays. -/
theorem items_of_holder (holds : lock.holder = some item) :
    lock.items = item :: lock.release.items := by
  simp only [items, holds, release, Option.toList_some, Option.toList_none, List.nil_append,
    List.singleton_append]

/-- A lock is granted when nobody holds it. -/
theorem holder_of_grant {granted : FairLock α} (grants : lock.grant? = some (item, granted)) :
    lock.holder = none ∧ granted.holder = some item := by
  unfold grant? at grants
  split at grants
  next unheld queue =>
    cases grants
    exact ⟨unheld, rfl⟩
  next => cases grants

/-- Granting the lock leaves the work in its order. -/
theorem items_grant {granted : FairLock α} (grants : lock.grant? = some (item, granted)) :
    granted.items = lock.items := by
  unfold grant? at grants
  split at grants
  next unheld queue =>
    cases grants
    simp only [items, unheld, queue, Option.toList_some, Option.toList_none, List.nil_append,
      List.singleton_append]
  next => cases grants

/-- Who takes a granted lock was waiting for it. -/
theorem mem_waiting_of_grant {granted : FairLock α}
    (grants : lock.grant? = some (item, granted)) : item ∈ lock.waiting := by
  unfold grant? at grants
  split at grants
  next unheld queue =>
    cases grants
    rw [queue]
    exact List.mem_cons_self
  next => cases grants

/-- Who waits after a newcomer is the newcomer, or waited before. -/
theorem mem_waiting_enter (waits : other ∈ (lock.enter item).waiting) :
    other = item ∨ other ∈ lock.waiting := by
  unfold enter at waits
  split at waits
  next => cases waits
  next =>
    rcases List.mem_append.mp waits with old | new
    · exact Or.inr old
    · exact Or.inl (List.mem_singleton.mp new)

/-- A grant only shortens the queue. -/
theorem mem_waiting_grant {granted : FairLock α} (grants : lock.grant? = some (item, granted))
    (waits : other ∈ granted.waiting) : other ∈ lock.waiting := by
  unfold grant? at grants
  split at grants
  next unheld queue =>
    cases grants
    rw [queue]
    exact List.mem_cons_of_mem _ waits
  next => cases grants

/-- What waits for the lock is among its work. -/
theorem mem_items_of_waiting (waits : item ∈ lock.waiting) : item ∈ lock.items :=
  List.mem_append_right _ waits

/-- Giving the lock back adds no work. -/
theorem mem_items_of_release (member : item ∈ lock.release.items) : item ∈ lock.items :=
  mem_items_of_waiting member

/-- Leaving the queue adds no work. -/
theorem mem_items_of_leave {leaves : α → Bool} (member : item ∈ (lock.leave leaves).items) :
    item ∈ lock.items := by
  rcases List.mem_append.mp member with held | waits
  · exact List.mem_append_left _ held
  · exact mem_items_of_waiting (List.mem_filter.mp waits).1

/-- Those that stay keep their order, when the holder is among them. -/
theorem items_leave {leaves : α → Bool} (stays : ∀ item, lock.holder = some item → !leaves item) :
    (lock.leave leaves).items = lock.items.filter fun item => !leaves item := by
  unfold items leave
  cases held : lock.holder with
  | none => rfl
  | some item => simp only [Option.toList_some, List.singleton_append, List.filter_cons,
      stays item held, ↓reduceIte]

end FairLock

end Foundation
