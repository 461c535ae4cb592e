import Mathlib.Data.List.Nodup

/-! # Locks of a cooperative scheduler

A lock is a flag and the queue of the futures that its waiters await. Who comes takes the lock at
once if it is free and nobody waits for it; a released lock wakes the head of the queue, which
takes the lock when it is resumed. A waiter may be resumed with a cancellation instead: it leaves
the queue and passes the wakeup on. Whatever the order of these steps, the lock has one holder at
most, and a free lock has a waiter at its head that will be resumed
(`Foundation.AsyncLock.Guards`).
-/

namespace Foundation

/-- The future that a waiter awaits. -/
inductive Waiter where
  | pending
  | woken
  | cancelled
  deriving DecidableEq

/-- A lock: whether it is held, and the waiters in order. -/
structure AsyncLock (τ : Type*) where
  locked : Bool
  waiters : List (τ × Waiter)

namespace AsyncLock

variable {τ : Type*}

/-- The lock that nobody holds. -/
def idle : AsyncLock τ := ⟨false, []⟩

/-- The tasks that wait, in order. -/
def tasks (lock : AsyncLock τ) : List τ := lock.waiters.map Prod.fst

/-- Wake the head of the queue if it is not done. -/
def wakeUpFirst (lock : AsyncLock τ) : AsyncLock τ :=
  match lock.waiters with
  | (task, .pending) :: rest => { lock with waiters := (task, .woken) :: rest }
  | _ => lock

/-- Come to the lock: whether it is taken at once, or the task waits. -/
def acquire (lock : AsyncLock τ) (task : τ) : Bool × AsyncLock τ :=
  if lock.locked = false ∧ ∀ waiter ∈ lock.waiters, waiter.2 = .cancelled then
    (true, { lock with locked := true })
  else (false, { lock with waiters := lock.waiters ++ [(task, .pending)] })

/-- Give the lock back. -/
def release (lock : AsyncLock τ) : AsyncLock τ := wakeUpFirst { lock with locked := false }

section Tasks

variable [DecidableEq τ]

/-- Cancel the future of a waiter, unless it is done. -/
def cancel? (lock : AsyncLock τ) (task : τ) : Option (AsyncLock τ) :=
  match lock.waiters.lookup task with
  | some .pending =>
      some { lock with
        waiters := lock.waiters.map fun waiter =>
          if waiter.1 = task then (waiter.1, .cancelled) else waiter }
  | _ => none

/-- Leave the queue. -/
def leave (lock : AsyncLock τ) (task : τ) : AsyncLock τ :=
  { lock with waiters := lock.waiters.filter fun waiter => waiter.1 ≠ task }

/-- Leave the queue with a cancellation. -/
def giveUp (lock : AsyncLock τ) (task : τ) : AsyncLock τ :=
  if lock.locked then lock.leave task else (lock.leave task).wakeUpFirst

/-- A waiter whose future is done goes on: whether it has the lock. -/
def resume? (lock : AsyncLock τ) (task : τ) (cancelled : Bool) : Option (Bool × AsyncLock τ) :=
  match lock.waiters.lookup task with
  | some .woken =>
      if cancelled then some (false, lock.giveUp task)
      else some (true, { lock.leave task with locked := true })
  | some .cancelled => some (false, lock.giveUp task)
  | _ => none

end Tasks

/-- The lock works, with this holder: only the head of the queue is awake, and only while nobody
holds the lock; while nobody does, the head is awake or about to leave. -/
structure Guards (lock : AsyncLock τ) (holder : Option τ) : Prop where
  locked : lock.locked = holder.isSome
  nodup : lock.tasks.Nodup
  asleep : ∀ waiter ∈ lock.waiters.tail, waiter.2 ≠ .woken
  free : ∀ first ∈ lock.waiters.head?, first.2 = .woken → holder = none
  awake : holder = none → ∀ first ∈ lock.waiters.head?, first.2 ≠ .pending

variable {lock after : AsyncLock τ} {holder : Option τ} {task : τ}

/-- Waking the first waiter up leaves all of them in the queue. -/
@[simp] theorem tasks_wakeUpFirst : lock.wakeUpFirst.tasks = lock.tasks := by
  unfold wakeUpFirst tasks
  split
  next queue => rw [queue, List.map_cons, List.map_cons]
  next => rfl

/-- Releasing the lock leaves all waiters in the queue. -/
@[simp] theorem tasks_release : lock.release.tasks = lock.tasks := tasks_wakeUpFirst

/-- A task that leaves takes its place out of the queue. -/
@[simp] theorem tasks_leave [DecidableEq τ] : (lock.leave task).tasks =
  lock.tasks.filter (· ≠ task) := by
  unfold leave tasks
  rw [List.filter_map]
  rfl

/-- A task that gives up takes its place out of the queue. -/
@[simp] theorem tasks_giveUp [DecidableEq τ] : (lock.giveUp task).tasks =
  lock.tasks.filter (· ≠ task) := by
  unfold giveUp
  split
  next => exact tasks_leave
  next => rw [tasks_wakeUpFirst, tasks_leave]

/-- Who comes to an idle lock takes it. -/
theorem acquire_idle : (idle : AsyncLock τ).acquire task = (true, ⟨true, []⟩) := by
  unfold acquire
  rw [if_pos ⟨rfl, fun _ member => absurd member List.not_mem_nil⟩]
  rfl

/-- A free lock works once its head is woken. -/
theorem guards_wakeUpFirst (unlocked : lock.locked = false) (nodup : lock.tasks.Nodup)
    (asleep : ∀ waiter ∈ lock.waiters.tail, waiter.2 ≠ .woken) :
    lock.wakeUpFirst.Guards none := by
  have kept : lock.wakeUpFirst.tasks.Nodup := by
    rw [tasks_wakeUpFirst]
    exact nodup
  revert kept
  unfold wakeUpFirst
  split
  next rest queue =>
    intro kept
    rw [queue] at asleep
    refine ⟨unlocked, kept, asleep, fun _ _ _ => rfl, fun _ first head => ?_⟩
    cases head
    exact Waiter.noConfusion
  next other =>
    intro kept
    refine ⟨unlocked, kept, asleep, fun _ _ _ => rfl, fun _ first head pending => ?_⟩
    obtain ⟨task, future⟩ := first
    cases queue : lock.waiters with
    | nil =>
        rw [queue] at head
        cases head
    | cons waiter rest =>
        rw [queue] at head
        cases head
        subst pending
        exact other task rest queue

/-- Who comes takes the lock from nobody, or waits at the end of the queue. -/
theorem Guards.acquire (guards : lock.Guards holder) (fresh : task ∉ lock.tasks) :
    lock.acquire task = (true, { lock with locked := true }) ∧ holder = none ∧
        ({ lock with locked := true } : AsyncLock τ).Guards (some task) ∨
      ∃ queued : AsyncLock τ, lock.acquire task = (false, queued) ∧ queued.Guards holder ∧
        queued.tasks = lock.tasks ++ [task] := by
  unfold AsyncLock.acquire
  split
  next taken =>
    obtain ⟨unlocked, left⟩ := taken
    have free : holder = none := by
      have locked := guards.locked
      rw [unlocked] at locked
      exact Option.not_isSome_iff_eq_none.mp (ne_true_of_eq_false locked.symm)
    refine .inl ⟨rfl, free, rfl, guards.nodup, guards.asleep, fun first head woken => ?_, nofun⟩
    rw [left first (List.mem_of_mem_head? head)] at woken
    cases woken
  next waits =>
    have added : (lock.waiters ++ [(task, Waiter.pending)]).map Prod.fst =
        lock.tasks ++ [task] := by
      rw [List.map_append]
      rfl
    have unique : ((lock.waiters ++ [(task, Waiter.pending)]).map Prod.fst).Nodup := by
      rw [added]
      exact List.nodup_append_comm.mp (List.nodup_cons.mpr ⟨fresh, guards.nodup⟩)
    refine .inr ⟨_, rfl, ?_, added⟩
    cases queue : lock.waiters with
    | nil =>
        -- nobody waits, so the lock is held
        have held : holder ≠ none := by
          intro free
          refine waits ⟨?_, ?_⟩
          · rw [guards.locked, free]
            rfl
          · rw [queue]
            exact fun _ member => absurd member List.not_mem_nil
        rw [queue] at unique
        refine ⟨guards.locked, unique, fun _ member => absurd member List.not_mem_nil, ?_,
          fun free => absurd free held⟩
        intro first head woken
        cases head
        cases woken
    | cons first rest =>
        rw [queue] at unique
        have asleep := guards.asleep
        have free := guards.free
        have awake := guards.awake
        rw [queue] at asleep free awake
        refine ⟨guards.locked, unique, fun waiter member => ?_, free, awake⟩
        rcases List.mem_append.mp member with old | new
        · exact asleep waiter old
        · rw [List.mem_singleton.mp new]
          exact Waiter.noConfusion

/-- A lock that its holder gives back has no holder. -/
theorem Guards.release (guards : lock.Guards (some task)) : lock.release.Guards none :=
  guards_wakeUpFirst rfl guards.nodup guards.asleep

/-- Only the head of the queue is awake. -/
theorem Guards.head_of_woken (guards : lock.Guards holder) {waiter : τ × Waiter}
    (member : waiter ∈ lock.waiters) (woken : waiter.2 = .woken) :
    lock.waiters.head? = some waiter := by
  have asleep := guards.asleep
  cases queue : lock.waiters with
  | nil =>
      rw [queue] at member
      cases member
  | cons first rest =>
      rw [queue] at member asleep
      rcases List.mem_cons.mp member with rfl | later
      · rfl
      · exact absurd woken (asleep waiter later)

/-- A waiter is woken only when nobody holds the lock. -/
theorem Guards.free_of_woken (guards : lock.Guards holder) {waiter : τ × Waiter}
    (member : waiter ∈ lock.waiters) (woken : waiter.2 = .woken) : holder = none :=
  guards.free waiter (guards.head_of_woken member woken) woken

section Tasks

variable [DecidableEq τ]

/-- A cancelled future leaves the waiters where they are. -/
theorem Guards.cancel (guards : lock.Guards holder) (cancels : lock.cancel? task = some after) :
    after.Guards holder ∧ after.tasks = lock.tasks := by
  unfold cancel? at cancels
  split at cancels
  next found =>
    cases cancels
    have same : (lock.waiters.map fun waiter =>
        if waiter.1 = task then (waiter.1, Waiter.cancelled) else waiter).map Prod.fst =
          lock.tasks := by
      rw [List.map_map]
      apply List.map_congr_left
      intro waiter _
      dsimp only [Function.comp]
      split
      next => rfl
      next => rfl
    refine ⟨⟨guards.locked, ?_, ?_, ?_, ?_⟩, same⟩
    · unfold tasks
      rw [same]
      exact guards.nodup
    · intro waiter member
      rw [← List.map_tail] at member
      obtain ⟨old, oldMember, rfl⟩ := List.mem_map.mp member
      split
      next => exact Waiter.noConfusion
      next => exact guards.asleep old oldMember
    · intro first head woken
      rw [List.head?_map] at head
      obtain ⟨old, oldHead, rfl⟩ := Option.map_eq_some_iff.mp head
      split at woken
      next => cases woken
      next => exact guards.free old oldHead woken
    · intro free first head
      rw [List.head?_map] at head
      obtain ⟨old, oldHead, rfl⟩ := Option.map_eq_some_iff.mp head
      split
      next => exact Waiter.noConfusion
      next => exact guards.awake free old oldHead
  next => cases cancels

/-- The tasks that stay wait once each. -/
theorem Guards.nodup_leave (guards : lock.Guards holder) : (lock.leave task).tasks.Nodup := by
  rw [tasks_leave]
  exact guards.nodup.filter _

/-- Who leaves does not wake the others. -/
theorem Guards.asleep_leave (guards : lock.Guards holder) :
    ∀ waiter ∈ (lock.leave task).waiters.tail, waiter.2 ≠ .woken := by
  have asleep := guards.asleep
  unfold leave
  cases queue : lock.waiters with
  | nil => exact fun _ member => absurd member List.not_mem_nil
  | cons first rest =>
      rw [queue] at asleep
      intro waiter member
      rw [List.filter_cons] at member
      split at member
      next => exact asleep waiter (List.mem_filter.mp member).1
      next => exact asleep waiter (List.mem_filter.mp (List.mem_of_mem_tail member)).1

/-- Who leaves the queue passes the wakeup on. -/
theorem Guards.giveUp (guards : lock.Guards holder) (task : τ) :
    (lock.giveUp task).Guards holder := by
  have locked := guards.locked
  unfold AsyncLock.giveUp
  cases holder with
  | none =>
      rw [if_neg (ne_true_of_eq_false locked)]
      exact guards_wakeUpFirst locked guards.nodup_leave guards.asleep_leave
  | some other =>
      have held : lock.locked = true := locked
      rw [if_pos held]
      refine ⟨locked, guards.nodup_leave, guards.asleep_leave, fun first head woken => ?_, nofun⟩
      have member := (List.mem_filter.mp (List.mem_of_mem_head? head)).1
      exact guards.free_of_woken member woken

/-- A waiter that was found is in the queue. -/
theorem lookup_mem {waiters : List (τ × Waiter)} {future : Waiter}
    (found : waiters.lookup task = some future) : (task, future) ∈ waiters := by
  obtain ⟨before, after, rfl, _⟩ := List.lookup_eq_some_iff.mp found
  exact List.mem_append_right _ List.mem_cons_self

/-- Who goes on takes the lock from nobody, or leaves the queue. -/
theorem Guards.resume (guards : lock.Guards holder) {cancelled acquired : Bool}
    (resumes : lock.resume? task cancelled = some (acquired, after)) :
    task ∈ lock.tasks ∧ after.tasks = lock.tasks.filter (· ≠ task) ∧
      (acquired = true ∧ holder = none ∧ after.Guards (some task) ∨
        acquired = false ∧ after.Guards holder) := by
  unfold resume? at resumes
  split at resumes
  next found =>
    have member := lookup_mem found
    have waits : task ∈ lock.tasks := List.mem_map_of_mem member
    split at resumes
    next =>
      cases resumes
      exact ⟨waits, tasks_giveUp, .inr ⟨rfl, guards.giveUp task⟩⟩
    next =>
      cases resumes
      refine ⟨waits, tasks_leave, .inl ⟨rfl, guards.free_of_woken member rfl, ?_⟩⟩
      refine ⟨rfl, guards.nodup_leave, guards.asleep_leave, fun first head woken => ?_, nofun⟩
      -- the head that was awake has left
      obtain ⟨old, others⟩ := List.mem_filter.mp (List.mem_of_mem_head? head)
      have same := guards.head_of_woken member rfl
      rw [guards.head_of_woken old woken] at same
      cases same
      exact absurd rfl (of_decide_eq_true others)
  next found =>
    cases resumes
    have waits : task ∈ lock.tasks := List.mem_map_of_mem (lookup_mem found)
    exact ⟨waits, tasks_giveUp, .inr ⟨rfl, guards.giveUp task⟩⟩
  next => cases resumes

/-- While nobody holds the lock, a waiter at the head of the queue goes on. -/
theorem Guards.goes_on (guards : lock.Guards none) (waits : task ∈ lock.tasks) :
    ∃ first ∈ lock.tasks, ∀ cancelled, (lock.resume? first cancelled).isSome := by
  have awake := guards.awake rfl
  unfold tasks at waits ⊢
  unfold resume?
  cases queue : lock.waiters with
  | nil =>
      rw [queue] at waits
      cases waits
  | cons first rest =>
      rw [queue] at awake
      obtain ⟨task, future⟩ := first
      refine ⟨task, List.mem_cons_self, fun cancelled => ?_⟩
      rw [List.lookup_cons_self]
      cases future with
      | pending => exact absurd rfl (awake _ rfl)
      | woken =>
          dsimp only
          split
          next => rfl
          next => rfl
      | cancelled => rfl

end Tasks

end AsyncLock

end Foundation
