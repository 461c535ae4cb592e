import Mathlib.Logic.Function.Basic
import LarkBot.Foundation.AsyncLock
import LarkBot.Foundation.Dict
import LarkBot.Foundation.Run

/-! # Operations of a session

`AgentSessionService.run_serialized` runs an operation under a lock of its session. The lock is
made for the first call of a session, counted for each call that uses it and dropped with the
last one, under a guard. In every order of calls, cancellations and ends of operations the guard
is free between the steps, a session in the table has the calls that hold or await its lock, and
every call in flight is one of them (`LarkBot.AgentSessionService.Sound`): operations of a session
exclude each other and wait for no other session (`LarkBot.operations_serialized`).
-/

namespace LarkBot

open Foundation

/-- `_SessionLock`. -/
structure SessionLock where
  lock : AsyncLock Nat
  users : Int

/-- Where a call of `run_serialized` is suspended; the operation has a running call to itself. -/
inductive SerializedPhase where
  | enteringGuard
  | waitingLock (entry : Nat)
  | running (entry : Nat)
  | leavingGuard (entry : Nat)
  deriving DecidableEq

/-- A call in flight, and whether its task is cancelled at its next step. -/
structure SerializedCall where
  sessionId : String
  phase : SerializedPhase
  mustCancel : Bool

/-- The service with the lock entries that were made, by number, and the calls in flight. -/
structure AgentSessionService where
  lockGuard : AsyncLock Nat
  locks : Dict String Nat
  entries : Nat → SessionLock
  nextEntry : Nat
  calls : Dict Nat SerializedCall

namespace AgentSessionService

def setEntry (service : AgentSessionService) (entry : Nat) (value : SessionLock) :
    AgentSessionService :=
  { service with entries := Function.update service.entries entry value }

def suspend (service : AgentSessionService) (id : Nat) (sessionId : String)
    (phase : SerializedPhase) : AgentSessionService :=
  { service with calls := service.calls.set id ⟨sessionId, phase, false⟩ }

/-- The call comes back or raises. -/
def endCall (service : AgentSessionService) (id : Nat) : AgentSessionService :=
  { service with calls := service.calls.pop id }

/-- `async with entry.lock`, up to the operation. -/
def enterLock (service : AgentSessionService) (id : Nat) (sessionId : String) (entry : Nat) :
    AgentSessionService :=
  let (taken, lock) := (service.entries entry).lock.acquire id
  (service.setEntry entry { service.entries entry with lock }).suspend id sessionId
    (if taken then .running entry else .waitingLock entry)

/-- The entry of a session, with a new one if it has none. -/
def entryOf (service : AgentSessionService) (sessionId : String) : Nat × AgentSessionService :=
  match service.locks.get? sessionId with
  | some entry => (entry, service)
  | none =>
      (service.nextEntry,
        { service.setEntry service.nextEntry ⟨.idle, 0⟩ with
          locks := service.locks.set sessionId service.nextEntry
          nextEntry := service.nextEntry + 1 })

/-- The first block under the guard, and what follows it. -/
def countUse (service : AgentSessionService) (id : Nat) (sessionId : String) :
    AgentSessionService :=
  let (entry, service) := service.entryOf sessionId
  let used := service.entries entry
  let service := service.setEntry entry { used with users := used.users + 1 }
  { service with lockGuard := service.lockGuard.release }.enterLock id sessionId entry

/-- The second block under the guard. -/
def dropUse (service : AgentSessionService) (id : Nat) (sessionId : String) (entry : Nat) :
    AgentSessionService :=
  let used := service.entries entry
  let users := used.users - 1
  { (service.setEntry entry { used with users }).endCall id with
    locks :=
      if users = 0 ∧ used.lock.locked = false then service.locks.pop sessionId else service.locks
    lockGuard := service.lockGuard.release }

/-- The `finally` of `run_serialized`. -/
def leave (service : AgentSessionService) (id : Nat) (sessionId : String) (entry : Nat) :
    AgentSessionService :=
  let (taken, lockGuard) := service.lockGuard.acquire id
  let service := { service with lockGuard }
  if taken then service.dropUse id sessionId entry
  else service.suspend id sessionId (.leavingGuard entry)

/-- A call of `run_serialized`, which raises without a session. -/
def start (service : AgentSessionService) (id : Nat) (sessionId : String) : AgentSessionService :=
  if sessionId = "" then service
  else
    let (taken, lockGuard) := service.lockGuard.acquire id
    let service := { service with lockGuard }
    if taken then service.countUse id sessionId
    else service.suspend id sessionId .enteringGuard

/-- The next step of a call that awaits a lock, if its future is done. -/
def resume? (service : AgentSessionService) (id : Nat) : Option AgentSessionService :=
  match service.calls.get? id with
  | none => none
  | some ⟨_, .running _, _⟩ => none
  | some ⟨sessionId, .enteringGuard, mustCancel⟩ =>
      (service.lockGuard.resume? id mustCancel).map fun (taken, lockGuard) =>
        let service := { service with lockGuard }
        if taken then service.countUse id sessionId else service.endCall id
  | some ⟨sessionId, .waitingLock entry, mustCancel⟩ =>
      ((service.entries entry).lock.resume? id mustCancel).map fun (taken, lock) =>
        let service := service.setEntry entry { service.entries entry with lock }
        if taken then service.suspend id sessionId (.running entry)
        else service.leave id sessionId entry
  | some ⟨sessionId, .leavingGuard entry, mustCancel⟩ =>
      (service.lockGuard.resume? id mustCancel).map fun (taken, lockGuard) =>
        let service := { service with lockGuard }
        if taken then service.dropUse id sessionId entry else service.endCall id

/-- An operation returns, raises or is cancelled. -/
def finish? (service : AgentSessionService) (id : Nat) : Option AgentSessionService :=
  match service.calls.get? id with
  | some ⟨sessionId, .running entry, _⟩ =>
      let used := service.entries entry
      some ((service.setEntry entry { used with lock := used.lock.release }).leave id sessionId
        entry)
  | _ => none

/-- `Task.cancel`: the future that the call awaits is cancelled, or, if it is done, the task is at
its next step. A running operation takes the cancellation itself. -/
def cancel? (service : AgentSessionService) (id : Nat) : Option AgentSessionService :=
  (service.calls.get? id).map fun call =>
    let marked := { service with calls := service.calls.set id { call with mustCancel := true } }
    match call.phase with
    | .running _ => service
    | .waitingLock entry =>
        match (service.entries entry).lock.cancel? id with
        | some lock => service.setEntry entry { service.entries entry with lock }
        | none => marked
    | .enteringGuard | .leavingGuard _ =>
        match service.lockGuard.cancel? id with
        | some lockGuard => { service with lockGuard }
        | none => marked

end AgentSessionService

inductive SerializedEvent where
  | start (id : Nat) (sessionId : String)
  | resume (id : Nat)
  | finish (id : Nat)
  | cancel (id : Nat)

/-- One step; a call in flight has its id to itself. -/
def AgentSessionService.next (service : AgentSessionService) :
    SerializedEvent → Option AgentSessionService
  | .start id sessionId =>
      if id ∈ service.calls.keys then none else some (service.start id sessionId)
  | .resume id => service.resume? id
  | .finish id => service.finish? id
  | .cancel id => service.cancel? id

/-- Every order of the steps of the calls of a service. -/
def sessionServiceSystem : System AgentSessionService SerializedEvent where
  initial service := service.lockGuard = .idle ∧ service.locks = .empty ∧ service.calls = .empty
  step before event after := before.next event = some after

namespace AgentSessionService

/-- Where a call is. -/
def phase? (service : AgentSessionService) (id : Nat) : Option SerializedPhase :=
  (service.calls.get? id).map SerializedCall.phase

/-- The calls that use an entry are the one that holds its lock and those that wait for it. -/
structure Uses (service : AgentSessionService) (entry : Nat) (holder : Option Nat) : Prop where
  guards : (service.entries entry).lock.Guards holder
  users : (service.entries entry).users =
    (holder.toList ++ (service.entries entry).lock.tasks).length
  running : ∀ id, service.phase? id = some (.running entry) ↔ holder = some id
  waiting : ∀ id, service.phase? id = some (.waitingLock entry) ↔
    id ∈ (service.entries entry).lock.tasks

/-- The guard is free, every call holds or awaits the lock of its session, and the sessions of the
table have entries of their own that are in use. -/
structure Sound (service : AgentSessionService) : Prop where
  guard : service.lockGuard = .idle
  placed : ∀ id call, service.calls.get? id = some call →
    ∃ entry, service.locks.get? call.sessionId = some entry ∧
      (call.phase = .running entry ∨ call.phase = .waitingLock entry)
  used : ∀ sessionId entry, service.locks.get? sessionId = some entry →
    ∃ holder, service.Uses entry holder ∧
      holder.toList ++ (service.entries entry).lock.tasks ≠ []
  distinct : ∀ first second entry, service.locks.get? first = some entry →
    service.locks.get? second = some entry → first = second
  known : ∀ sessionId entry, service.locks.get? sessionId = some entry → entry < service.nextEntry

variable {service after : AgentSessionService} {id entry : Nat} {sessionId : String}

/-- A call in flight has its phase. -/
theorem phase_of {call : SerializedCall} (held : service.calls.get? id = some call) :
    service.phase? id = some call.phase :=
  congrArg (Option.map SerializedCall.phase) held

/-- A call in flight has the session that it was made for. -/
theorem session_of {phase : SerializedPhase} {mustCancel : Bool}
    (held : service.calls.get? id = some ⟨sessionId, phase, mustCancel⟩) (call : SerializedCall)
    (found : service.calls.get? id = some call) : call.sessionId = sessionId := by
  rw [held] at found
  cases found
  rfl

/-- A step of one call changes nothing of the other calls, entries and sessions. -/
structure Moves (service after : AgentSessionService) (id : Nat) (sessionId : String)
    (entry : Nat) : Prop where
  calls : ∀ other, other ≠ id → after.calls.get? other = service.calls.get? other
  entries : ∀ other, other ≠ entry → after.entries other = service.entries other
  locks : ∀ other, other ≠ sessionId → after.locks.get? other = service.locks.get? other
  guard : after.lockGuard = .idle
  next : service.nextEntry ≤ after.nextEntry
  known : entry < after.nextEntry
  owner : ∀ call, service.calls.get? id = some call → call.sessionId = sessionId
  placed : ∀ call, after.calls.get? id = some call → call.sessionId = sessionId ∧
    (call.phase = .running entry ∨ call.phase = .waitingLock entry)
  located : ∀ other, service.locks.get? sessionId = some other → other = entry
  others : ∀ other, service.locks.get? other = some entry → other = sessionId

/-- A move of one call leaves the phases of the others. -/
theorem Moves.phase? (moves : service.Moves after id sessionId entry) {other : Nat}
    (apart : other ≠ id) : after.phase? other = service.phase? other :=
  congrArg (Option.map SerializedCall.phase) (moves.calls other apart)

/-- A call of another session is where it was, whatever its entry. -/
theorem Moves.phase_iff (sound : service.Sound) (moves : service.Moves after id sessionId entry)
    {other : String} {otherEntry : Nat} (apart : other ≠ sessionId)
    (found : service.locks.get? other = some otherEntry) (caller : Nat)
    {phase : SerializedPhase}
    (there : phase = .running otherEntry ∨ phase = .waitingLock otherEntry) :
    after.phase? caller = some phase ↔ service.phase? caller = some phase := by
  by_cases same : caller = id
  · subst same
    have otherOne : otherEntry ≠ entry := fun same => apart (moves.others other (same ▸ found))
    constructor
    · intro now
      obtain ⟨call, held, rfl⟩ := Option.map_eq_some_iff.mp now
      rcases (moves.placed call held).2 with here | here <;> rcases there with other | other <;>
        rw [here] at other <;> cases other <;> exact absurd rfl otherOne
    · intro before
      obtain ⟨call, held, rfl⟩ := Option.map_eq_some_iff.mp before
      obtain ⟨place, located, phased⟩ := sound.placed caller call held
      rw [moves.owner call held] at located
      have samePlace : place = otherEntry := by
        rcases phased with here | here <;> rcases there with other | other <;>
          rw [here] at other <;> cases other <;> rfl
      rw [samePlace] at located
      exact absurd (sound.distinct other sessionId otherEntry found located) apart
  · rw [moves.phase? same]

/-- A step of one call keeps the service sound if it leaves the session used, or without calls. -/
theorem Sound.moved (sound : service.Sound) (moves : service.Moves after id sessionId entry)
    (settled : (after.locks.get? sessionId = some entry ∧
        ∃ holder, after.Uses entry holder ∧
          holder.toList ++ (after.entries entry).lock.tasks ≠ []) ∨
      after.locks.get? sessionId = none ∧
        ∀ other call, after.calls.get? other = some call → call.sessionId ≠ sessionId) :
    after.Sound where
  guard := moves.guard
  placed := by
    intro other call held
    by_cases same : call.sessionId = sessionId
    · rcases settled with ⟨found, _⟩ | ⟨_, none⟩
      · refine ⟨entry, same ▸ found, ?_⟩
        by_cases moved : other = id
        · subst moved
          exact (moves.placed call held).2
        · rw [moves.calls other moved] at held
          obtain ⟨place, located, phased⟩ := sound.placed other call held
          rw [same] at located
          rw [moves.located place located] at phased
          exact phased
      · exact absurd same (none other call held)
    · by_cases moved : other = id
      · subst moved
        exact absurd (moves.placed call held).1 same
      · rw [moves.calls other moved] at held
        rw [moves.locks call.sessionId same]
        exact sound.placed other call held
  used := by
    intro other otherEntry found
    by_cases same : other = sessionId
    · subst same
      rcases settled with ⟨here, used⟩ | ⟨gone, _⟩
      · rw [found] at here
        cases here
        exact used
      · rw [found] at gone
        cases gone
    · rw [moves.locks other same] at found
      obtain ⟨holder, uses, nonempty⟩ := sound.used other otherEntry found
      have kept : after.entries otherEntry = service.entries otherEntry :=
        moves.entries otherEntry fun here => same (moves.others other (here ▸ found))
      refine ⟨holder, ⟨?_, ?_, fun caller => ?_, fun caller => ?_⟩, ?_⟩
      · rw [kept]
        exact uses.guards
      · rw [kept]
        exact uses.users
      · rw [moves.phase_iff sound same found caller (.inl rfl)]
        exact uses.running caller
      · rw [moves.phase_iff sound same found caller (.inr rfl), kept]
        exact uses.waiting caller
      · rw [kept]
        exact nonempty
  distinct := by
    have owned : ∀ other otherEntry, after.locks.get? other = some otherEntry →
        other = sessionId ∧ otherEntry = entry ∨
          other ≠ sessionId ∧ service.locks.get? other = some otherEntry := by
      intro other otherEntry found
      by_cases same : other = sessionId
      · subst same
        rcases settled with ⟨here, _⟩ | ⟨gone, _⟩
        · rw [found] at here
          cases here
          exact .inl ⟨rfl, rfl⟩
        · rw [found] at gone
          cases gone
      · rw [moves.locks other same] at found
        exact .inr ⟨same, found⟩
    intro first second shared firstFound secondFound
    rcases owned first shared firstFound with ⟨rfl, rfl⟩ | ⟨firstOther, firstOld⟩
    · rcases owned second shared secondFound with ⟨rfl, _⟩ | ⟨secondOther, secondOld⟩
      · rfl
      · exact absurd (moves.others second secondOld) secondOther
    · rcases owned second shared secondFound with ⟨rfl, rfl⟩ | ⟨secondOther, secondOld⟩
      · exact absurd (moves.others first firstOld) firstOther
      · exact sound.distinct first second shared firstOld secondOld
  known := by
    intro other otherEntry found
    by_cases same : other = sessionId
    · subst same
      rcases settled with ⟨here, _⟩ | ⟨gone, _⟩
      · rw [found] at here
        cases here
        exact moves.known
      · rw [found] at gone
        cases gone
    · rw [moves.locks other same] at found
      exact Nat.lt_of_lt_of_le (sound.known other otherEntry found) moves.next

/-- A step that leaves a call at the lock of its session, with this entry. -/
structure Places (service after : AgentSessionService) (id : Nat) (sessionId : String)
    (entry : Nat) (value : SessionLock) (phase : SerializedPhase) : Prop where
  calls : ∀ other, other ≠ id → after.calls.get? other = service.calls.get? other
  call : ∃ mustCancel, after.calls.get? id = some ⟨sessionId, phase, mustCancel⟩
  entries : after.entries = Function.update service.entries entry value
  locks : after.locks = service.locks
  guard : after.lockGuard = .idle
  next : after.nextEntry = service.nextEntry

/-- A call that comes to the lock of its session, waits for it or takes it keeps the service
sound. -/
theorem Sound.place (sound : service.Sound) {value : SessionLock} {phase : SerializedPhase}
    (places : service.Places after id sessionId entry value phase)
    (found : service.locks.get? sessionId = some entry)
    (owner : ∀ call, service.calls.get? id = some call → call.sessionId = sessionId)
    {holder next : Option Nat} (uses : service.Uses entry holder) (guards : value.lock.Guards next)
    (users : value.users = (next.toList ++ value.lock.tasks).length)
    (here : phase = .running entry ∧ next = some id ∧ id ∉ value.lock.tasks ∨
      phase = .waitingLock entry ∧ next ≠ some id ∧ id ∈ value.lock.tasks)
    (others : ∀ other, other ≠ id → (next = some other ↔ holder = some other) ∧
      (other ∈ value.lock.tasks ↔ other ∈ (service.entries entry).lock.tasks)) : after.Sound := by
  obtain ⟨mustCancel, called⟩ := places.call
  have phased : after.phase? id = some phase := by
    unfold AgentSessionService.phase?
    rw [called]
    rfl
  have kept : ∀ other, other ≠ id → after.phase? other = service.phase? other := fun other apart =>
    congrArg (Option.map SerializedCall.phase) (places.calls other apart)
  have stored : after.entries entry = value := by
    rw [places.entries, Function.update_self]
  refine sound.moved (?_ : service.Moves after id sessionId entry)
    (.inl ⟨by rw [places.locks]; exact found, next, ?_, ?_⟩)
  · exact {
      calls := places.calls
      entries := fun other apart => by rw [places.entries, Function.update_of_ne apart]
      locks := fun other _ => by rw [places.locks]
      guard := places.guard
      next := Nat.le_of_eq places.next.symm
      known := by
        rw [places.next]
        exact sound.known sessionId entry found
      owner := owner
      placed := by
        intro call held
        rw [called] at held
        cases held
        exact ⟨rfl, here.imp And.left And.left⟩
      located := by
        intro other located
        rw [found] at located
        exact (Option.some.inj located).symm
      others := fun other located => sound.distinct other sessionId entry located found }
  · refine ⟨?_, ?_, fun caller => ?_, fun caller => ?_⟩
    · rw [stored]
      exact guards
    · rw [stored]
      exact users
    · by_cases same : caller = id
      · subst same
        rw [phased, Option.some.injEq]
        rcases here with ⟨runs, holds, _⟩ | ⟨waits, free, _⟩
        · exact iff_of_true runs holds
        · rw [waits]
          exact iff_of_false SerializedPhase.noConfusion free
      · rw [kept caller same, uses.running caller, (others caller same).1]
    · rw [stored]
      by_cases same : caller = id
      · subst same
        rw [phased, Option.some.injEq]
        rcases here with ⟨runs, _, gone⟩ | ⟨waits, _, listed⟩
        · rw [runs]
          exact iff_of_false SerializedPhase.noConfusion gone
        · exact iff_of_true waits listed
      · rw [kept caller same, uses.waiting caller, (others caller same).2]
  · rw [stored]
    rcases here with ⟨_, holds, _⟩ | ⟨_, _, listed⟩
    · rw [holds]
      exact List.cons_ne_nil _ _
    · exact List.append_ne_nil_of_right_ne_nil _ (List.ne_nil_of_mem listed)

/-- A step that ends a call of a session, with this entry. -/
structure Drops (service after : AgentSessionService) (id : Nat) (sessionId : String)
    (entry : Nat) (value : SessionLock) : Prop where
  calls : after.calls = service.calls.pop id
  entries : after.entries = Function.update service.entries entry value
  locks : after.locks = if value.users = 0 ∧ value.lock.locked = false then
    service.locks.pop sessionId else service.locks
  guard : after.lockGuard = .idle
  next : after.nextEntry = service.nextEntry

/-- A call that leaves its session keeps the service sound: the entry goes with its last user. -/
theorem Sound.drop (sound : service.Sound) {value : SessionLock}
    (drops : service.Drops after id sessionId entry value)
    (found : service.locks.get? sessionId = some entry)
    (owner : ∀ call, service.calls.get? id = some call → call.sessionId = sessionId)
    {holder next : Option Nat} (uses : service.Uses entry holder) (guards : value.lock.Guards next)
    (users : value.users = (next.toList ++ value.lock.tasks).length)
    (gone : next ≠ some id ∧ id ∉ value.lock.tasks)
    (others : ∀ other, other ≠ id → (next = some other ↔ holder = some other) ∧
      (other ∈ value.lock.tasks ↔ other ∈ (service.entries entry).lock.tasks)) : after.Sound := by
  have ended : after.calls.get? id = none := by
    rw [drops.calls, Dict.get?_pop, if_pos rfl]
  have kept : ∀ other, other ≠ id → after.calls.get? other = service.calls.get? other := by
    intro other apart
    rw [drops.calls, Dict.get?_pop, if_neg apart]
  have phases : ∀ other, other ≠ id → after.phase? other = service.phase? other :=
    fun other apart => congrArg (Option.map SerializedCall.phase) (kept other apart)
  have stored : after.entries entry = value := by
    rw [drops.entries, Function.update_self]
  have moves : service.Moves after id sessionId entry := {
    calls := kept
    entries := fun other apart => by rw [drops.entries, Function.update_of_ne apart]
    locks := by
      intro other apart
      rw [drops.locks]
      split
      next => rw [Dict.get?_pop, if_neg apart]
      next => rfl
    guard := drops.guard
    next := Nat.le_of_eq drops.next.symm
    known := by
      rw [drops.next]
      exact sound.known sessionId entry found
    owner := owner
    placed := by
      intro call held
      rw [ended] at held
      cases held
    located := by
      intro other located
      rw [found] at located
      exact (Option.some.inj located).symm
    others := fun other located => sound.distinct other sessionId entry located found }
  by_cases empty : next.toList ++ value.lock.tasks = []
  · have unused : value.users = 0 ∧ value.lock.locked = false := by
      obtain ⟨unheld, _⟩ := List.append_eq_nil_iff.mp empty
      rw [users, empty, guards.locked, Option.toList_eq_nil_iff.mp unheld]
      exact ⟨rfl, rfl⟩
    refine sound.moved moves (.inr ⟨?_, fun other call held same => ?_⟩)
    · rw [drops.locks, if_pos unused, Dict.get?_pop, if_pos rfl]
    · -- a call of the session would still use the entry
      have apart : other ≠ id := by
        rintro rfl
        rw [ended] at held
        cases held
      rw [kept other apart] at held
      obtain ⟨place, located, phased⟩ := sound.placed other call held
      rw [same, found] at located
      cases located
      have phase : service.phase? other = some call.phase := phase_of held
      obtain ⟨unheld, unlisted⟩ := List.append_eq_nil_iff.mp empty
      rcases phased with runs | waits
      · have holds := (others other apart).1.mpr ((uses.running other).mp (runs ▸ phase))
        rw [holds] at unheld
        cases unheld
      · have listed := (others other apart).2.mpr ((uses.waiting other).mp (waits ▸ phase))
        rw [unlisted] at listed
        cases listed
  · have inUse : ¬ (value.users = 0 ∧ value.lock.locked = false) := by
      intro unused
      rw [users] at unused
      exact empty (List.length_eq_zero_iff.mp (Int.ofNat_eq_zero.mp unused.1))
    refine sound.moved moves (.inl ⟨?_, next, ⟨?_, ?_, fun caller => ?_, fun caller => ?_⟩, ?_⟩)
    · rw [drops.locks, if_neg inUse]
      exact found
    · rw [stored]
      exact guards
    · rw [stored]
      exact users
    · by_cases same : caller = id
      · subst same
        unfold AgentSessionService.phase?
        rw [ended]
        exact iff_of_false (Option.some_ne_none _).symm gone.1
      · rw [phases caller same, uses.running caller, (others caller same).1]
    · rw [stored]
      by_cases same : caller = id
      · subst same
        unfold AgentSessionService.phase?
        rw [ended]
        exact iff_of_false (Option.some_ne_none _).symm gone.2
      · rw [phases caller same, uses.waiting caller, (others caller same).2]
    · rw [stored]
      exact empty

/-- The call that runs under a lock holds it, and nobody else waits under its number. -/
theorem Uses.other_of_running {holder : Option Nat} (uses : service.Uses entry holder)
    (held : service.phase? id = some (.running entry)) :
    holder = some id ∧ id ∉ (service.entries entry).lock.tasks := by
  refine ⟨(uses.running id).mp held, fun listed => ?_⟩
  have waits := (uses.waiting id).mpr listed
  rw [held] at waits
  cases waits

/-- A call that waits for a lock does not hold it. -/
theorem Uses.other_of_waiting {holder : Option Nat} (uses : service.Uses entry holder)
    (held : service.phase? id = some (.waitingLock entry)) :
    holder ≠ some id ∧ id ∈ (service.entries entry).lock.tasks := by
  refine ⟨fun holds => ?_, (uses.waiting id).mp held⟩
  have runs := (uses.running id).mpr holds
  rw [held] at runs
  cases runs

/-- A call that starts at an entry takes its lock or waits for it. -/
theorem Sound.join (sound : service.Sound) (fresh : service.calls.get? id = none)
    (found : service.locks.get? sessionId = some entry) :
    ({ service with lockGuard := ⟨true, []⟩ }.countUse id sessionId).Sound := by
  obtain ⟨holder, uses, _⟩ := sound.used sessionId entry found
  have unphased : service.phase? id = none := by
    unfold AgentSessionService.phase?
    rw [fresh]
    rfl
  have unheld : holder ≠ some id := by
    intro holds
    rw [(uses.running id).mpr holds] at unphased
    cases unphased
  have unlisted : id ∉ (service.entries entry).lock.tasks := by
    intro listed
    rw [(uses.waiting id).mpr listed] at unphased
    cases unphased
  have owner : ∀ call, service.calls.get? id = some call → call.sessionId = sessionId := by
    intro call held
    rw [fresh] at held
    cases held
  have moved : ∀ (taken : Bool) (lock : AsyncLock Nat),
      (service.entries entry).lock.acquire id = (taken, lock) →
        service.Places ({ service with lockGuard := ⟨true, []⟩ }.countUse id sessionId) id sessionId
          entry ⟨lock, (service.entries entry).users + 1⟩
          (if taken then .running entry else .waitingLock entry) := by
    intro taken lock acquired
    simp only [countUse, entryOf, found, enterLock, setEntry, suspend, Function.update_self,
      acquired]
    refine ⟨fun other apart => ?_, ⟨false, ?_⟩, Function.update_idem _ _ _, rfl, rfl, rfl⟩
    · dsimp only
      rw [Dict.get?_set, if_neg apart]
    · dsimp only
      rw [Dict.get?_set, if_pos rfl]
  rcases uses.guards.acquire unlisted with
      ⟨acquired, rfl, guards⟩ | ⟨queued, acquired, guards, tasks⟩
  · refine sound.place (moved true _ acquired) found owner uses guards ?_
      (.inl ⟨rfl, rfl, unlisted⟩) fun other apart => ⟨?_, Iff.rfl⟩
    · rw [uses.users]
      exact (Int.natCast_succ _).symm
    · exact iff_of_false (fun same => apart (Option.some.inj same).symm)
        (Option.some_ne_none _).symm
  · refine sound.place (moved false queued acquired) found owner uses guards ?_
      (.inr ⟨rfl, unheld, ?_⟩) fun other apart => ⟨Iff.rfl, ?_⟩
    · dsimp only
      have longer : (holder.toList ++ (service.entries entry).lock.tasks ++ [id]).length =
          (holder.toList ++ (service.entries entry).lock.tasks).length + 1 := List.length_append
      rw [uses.users, tasks, ← List.append_assoc, longer]
      rfl
    · rw [tasks]
      exact List.mem_append_right _ List.mem_cons_self
    · rw [tasks, List.mem_append, List.mem_singleton]
      exact or_iff_left apart

/-- A call that starts without an entry of its session makes one and takes its lock. -/
theorem Sound.found (sound : service.Sound) (fresh : service.calls.get? id = none)
    (missing : service.locks.get? sessionId = none) :
    ({ service with lockGuard := ⟨true, []⟩ }.countUse id sessionId).Sound := by
  have unknown : ∀ other, service.locks.get? other ≠ some service.nextEntry := fun other located =>
    Nat.lt_irrefl _ (sound.known other _ located)
  have unplaced : ∀ other phase, service.phase? other = some phase →
      phase ≠ .running service.nextEntry ∧ phase ≠ .waitingLock service.nextEntry := by
    intro other phase phased
    obtain ⟨call, held, rfl⟩ := Option.map_eq_some_iff.mp phased
    obtain ⟨place, located, there⟩ := sound.placed other call held
    have apart : place ≠ service.nextEntry := fun same => unknown call.sessionId (same ▸ located)
    rcases there with runs | waits
    · rw [runs]
      exact ⟨fun same => apart (SerializedPhase.running.inj same), SerializedPhase.noConfusion⟩
    · rw [waits]
      exact ⟨SerializedPhase.noConfusion, fun same => apart (SerializedPhase.waitingLock.inj same)⟩
  have after : { service with lockGuard := ⟨true, []⟩ }.countUse id sessionId =
      { service with
        lockGuard := .idle
        locks := service.locks.set sessionId service.nextEntry
        entries := Function.update service.entries service.nextEntry ⟨⟨true, []⟩, 1⟩
        nextEntry := service.nextEntry + 1
        calls := service.calls.set id ⟨sessionId, .running service.nextEntry, false⟩ } := by
    simp only [countUse, entryOf, missing, enterLock, setEntry, suspend, Function.update_self,
      AsyncLock.acquire_idle, Function.update_idem]
    rfl
  rw [after]
  have called : ∀ call, (service.calls.set id
      ⟨sessionId, .running service.nextEntry, false⟩).get? id = some call →
        call = ⟨sessionId, .running service.nextEntry, false⟩ := by
    intro call held
    rw [Dict.get?_set, if_pos rfl] at held
    exact (Option.some.inj held).symm
  refine sound.moved (?_ : service.Moves _ id sessionId service.nextEntry)
    (.inl ⟨?_, some id, ⟨?_, ?_, fun caller => ?_, fun caller => ?_⟩, ?_⟩)
  · exact {
      calls := fun other apart => by rw [Dict.get?_set, if_neg apart]
      entries := fun other apart => Function.update_of_ne apart _ _
      locks := fun other apart => by rw [Dict.get?_set, if_neg apart]
      guard := rfl
      next := Nat.le_succ _
      known := Nat.lt_succ_self _
      owner := fun call held => by
        rw [fresh] at held
        cases held
      placed := fun call held => by
        rw [called call held]
        exact ⟨rfl, .inl rfl⟩
      located := fun other located => by
        rw [missing] at located
        cases located
      others := fun other located => absurd located (unknown other) }
  · dsimp only
    rw [Dict.get?_set, if_pos rfl]
  · dsimp only
    rw [Function.update_self]
    exact ⟨rfl, List.nodup_nil, fun _ member => absurd member List.not_mem_nil,
      fun _ first => absurd first (Option.not_mem_none _),
      fun free => absurd free (Option.some_ne_none _)⟩
  · dsimp only
    rw [Function.update_self]
    rfl
  · unfold AgentSessionService.phase?
    dsimp only
    rw [Dict.get?_set]
    split
    next same => exact iff_of_true rfl (congrArg some same.symm)
    next apart =>
      exact iff_of_false (fun phased => (unplaced caller _ phased).1 rfl)
        fun same => apart (Option.some.inj same).symm
  · dsimp only
    rw [Function.update_self]
    unfold AgentSessionService.phase?
    dsimp only
    rw [Dict.get?_set]
    split
    next same =>
      exact iff_of_false (fun phased => SerializedPhase.noConfusion (Option.some.inj phased))
        List.not_mem_nil
    next apart =>
      exact iff_of_false (fun phased => (unplaced caller _ phased).2 rfl) List.not_mem_nil
  · exact List.cons_ne_nil _ _

/-- A call that begins keeps the service sound, whether it gets the lock or waits. -/
theorem Sound.start (sound : service.Sound) (fresh : id ∉ service.calls.keys) :
    (service.start id sessionId).Sound := by
  have unused := Dict.get?_eq_none.mpr fresh
  unfold AgentSessionService.start
  split
  next => exact sound
  next =>
    rw [sound.guard, AsyncLock.acquire_idle]
    dsimp only
    rw [if_pos rfl]
    cases found : service.locks.get? sessionId with
    | none => exact sound.found unused found
    | some entry => exact sound.join unused found

/-- While the guard is free, a call leaves in one step. -/
theorem drops_leave (guard : service.lockGuard = .idle) (value : SessionLock) :
    service.Drops ((service.setEntry entry value).leave id sessionId entry) id sessionId entry
      { value with users := value.users - 1 } := by
  have after : (service.setEntry entry value).leave id sessionId entry =
      { service with
        lockGuard := .idle
        locks := if value.users - 1 = 0 ∧ value.lock.locked = false then
          service.locks.pop sessionId else service.locks
        entries := Function.update service.entries entry { value with users := value.users - 1 }
        calls := service.calls.pop id } := by
    simp only [leave, setEntry, guard, AsyncLock.acquire_idle, dropUse, endCall,
      Function.update_self, Function.update_idem, if_true]
    rfl
  rw [after]
  exact ⟨rfl, rfl, rfl, rfl, rfl⟩

/-- The calls of a session without one of those that wait. -/
theorem length_without {tasks : List Nat} (holder : Option Nat) (nodup : tasks.Nodup)
    (listed : id ∈ tasks) :
    ((holder.toList ++ tasks).length : Int) - 1 =
      (holder.toList ++ tasks.filter (· ≠ id)).length := by
  have shorter : tasks.filter (· ≠ id) = tasks.erase id := by
    rw [nodup.erase_eq_filter]
    exact List.filter_congr fun _ _ => Bool.eq_iff_iff.mpr (by rw [decide_eq_true_iff, bne_iff_ne])
  have length := List.length_erase_of_mem listed
  have positive := List.length_pos_of_mem listed
  rw [shorter, List.length_append, List.length_append, length]
  omega

/-- A call that goes on keeps the service sound, one case for each phase. -/
theorem Sound.resume (sound : service.Sound) (resumes : service.resume? id = some after) :
    after.Sound := by
  simp only [resume?] at resumes
  cases held : service.calls.get? id with
  | none =>
      rw [held] at resumes
      cases resumes
  | some call =>
      obtain ⟨sessionId, phase, mustCancel⟩ := call
      obtain ⟨entry, found, there⟩ := sound.placed id _ held
      rw [held] at resumes
      rcases there with runs | waits
      · cases runs
        cases resumes
      · cases waits
        obtain ⟨⟨acquired, lock⟩, resumed, rfl⟩ := Option.map_eq_some_iff.mp resumes
        obtain ⟨holder, uses, _⟩ := sound.used _ entry found
        obtain ⟨apart, listed⟩ := uses.other_of_waiting (phase_of held)
        obtain ⟨_, tasks, guards⟩ := uses.guards.resume resumed
        have unlisted : id ∉ lock.tasks := by
          rw [tasks]
          exact fun member => of_decide_eq_true (List.mem_filter.mp member).2 rfl
        have same : ∀ other, other ≠ id →
            (other ∈ lock.tasks ↔ other ∈ (service.entries entry).lock.tasks) := by
          intro other different
          rw [tasks, List.mem_filter]
          exact and_iff_left (decide_eq_true different)
        have fewer := length_without holder uses.guards.nodup listed
        rcases guards with ⟨rfl, rfl, guards⟩ | ⟨rfl, guards⟩
        · -- the call takes the lock
          refine sound.place
            (?_ : service.Places _ id sessionId entry ⟨lock, (service.entries entry).users⟩
              (.running entry)) found (session_of held) uses guards ?_ (.inl ⟨rfl, rfl, unlisted⟩)
            fun other different => ⟨?_, same other different⟩
          · refine ⟨fun other different => ?_, ⟨false, ?_⟩, rfl, rfl, sound.guard, rfl⟩
            · change (service.calls.set id _).get? other = _
              rw [Dict.get?_set, if_neg different]
            · change (service.calls.set id _).get? id = _
              rw [Dict.get?_set, if_pos rfl]
          · rw [uses.users, tasks, List.length_append, List.length_append]
            rw [List.length_append, List.length_append] at fewer
            simp only [Option.toList_none, Option.toList_some, List.length_nil,
              List.length_singleton] at fewer ⊢
            omega
          · exact iff_of_false (fun taken => different (Option.some.inj taken).symm)
              (Option.some_ne_none _).symm
        · refine sound.drop (drops_leave sound.guard _) found (session_of held) uses guards ?_
            ⟨apart, unlisted⟩ fun other different => ⟨Iff.rfl, same other different⟩
          dsimp only
          rw [uses.users, tasks]
          exact fewer

/-- An operation that ends hands its lock on and keeps the service sound. -/
theorem Sound.finish (sound : service.Sound) (finishes : service.finish? id = some after) :
    after.Sound := by
  simp only [finish?] at finishes
  split at finishes
  next sessionId entry mustCancel held =>
    cases finishes
    obtain ⟨place, found, there⟩ := sound.placed id _ held
    have same : place = entry := by
      rcases there with runs | waits
      · cases runs
        rfl
      · cases waits
    subst same
    obtain ⟨holder, uses, _⟩ := sound.used _ place found
    obtain ⟨rfl, unlisted⟩ := uses.other_of_running (phase_of held)
    refine sound.drop (drops_leave sound.guard _) found (session_of held) uses
      uses.guards.release ?_
      ⟨(Option.some_ne_none _).symm, ?_⟩ fun other different => ⟨?_, ?_⟩
    · dsimp only
      rw [uses.users, AsyncLock.tasks_release, List.length_append, List.length_append]
      simp only [Option.toList_none, Option.toList_some, List.length_nil, List.length_singleton]
      omega
    · dsimp only
      rw [AsyncLock.tasks_release]
      exact unlisted
    · exact iff_of_false (Option.some_ne_none _).symm
        fun taken => different (Option.some.inj taken).symm
    · dsimp only
      rw [AsyncLock.tasks_release]
  next => cases finishes

/-- A cancellation keeps the service sound, wherever the call is suspended. -/
theorem Sound.cancel (sound : service.Sound) (cancels : service.cancel? id = some after) :
    after.Sound := by
  obtain ⟨⟨sessionId, phase, mustCancel⟩, held, rfl⟩ := Option.map_eq_some_iff.mp cancels
  obtain ⟨entry, found, there⟩ := sound.placed id _ held
  rcases there with runs | waits
  · cases runs
    exact sound
  · cases waits
    obtain ⟨holder, uses, _⟩ := sound.used _ entry found
    obtain ⟨apart, listed⟩ := uses.other_of_waiting (phase_of held)
    dsimp only
    split
    next lock cancelled =>
      obtain ⟨guards, tasks⟩ := uses.guards.cancel cancelled
      refine sound.place
        (⟨fun _ _ => rfl, ⟨mustCancel, held⟩, rfl, rfl, sound.guard, rfl⟩ :
          service.Places (service.setEntry entry _) id sessionId entry
            ⟨lock, (service.entries entry).users⟩ (.waitingLock entry))
        found (session_of held) uses guards ?_ (.inr ⟨rfl, apart, ?_⟩) fun other _ => ⟨Iff.rfl, ?_⟩
      · rw [tasks]
        exact uses.users
      · rw [tasks]
        exact listed
      · rw [tasks]
    next =>
      refine sound.place
        (?_ : service.Places _ id sessionId entry (service.entries entry) (.waitingLock entry))
        found (session_of held) uses uses.guards uses.users (.inr ⟨rfl, apart, listed⟩)
        fun other _ => ⟨Iff.rfl, Iff.rfl⟩
      refine ⟨fun other different => ?_, ⟨true, ?_⟩, ?_, rfl, sound.guard, rfl⟩
      · change (service.calls.set id _).get? other = _
        rw [Dict.get?_set, if_neg different]
      · change (service.calls.set id _).get? id = _
        rw [Dict.get?_set, if_pos rfl]
      · exact (Function.update_eq_self _ _).symm

/-- Every event keeps the service sound. -/
theorem Sound.next {event : SerializedEvent} (sound : service.Sound)
    (stepped : service.next event = some after) : after.Sound := by
  cases event with
  | start id sessionId =>
      simp only [AgentSessionService.next] at stepped
      split at stepped
      next => cases stepped
      next fresh =>
        cases stepped
        exact sound.start fresh
  | resume id => exact sound.resume stepped
  | finish id => exact sound.finish stepped
  | cancel id => exact sound.cancel stepped

/-- In every order of the steps of its calls the service is sound. -/
theorem sound_of_reachable (reachable : sessionServiceSystem.Reachable service) :
    service.Sound := by
  refine reachable.invariant Sound ?_ fun before event after sound _ stepped => sound.next stepped
  intro first initially
  obtain ⟨guard, locks, calls⟩ := initially
  have unlocked : ∀ sessionId, first.locks.get? sessionId = none := by
    intro sessionId
    rw [locks]
    rfl
  refine ⟨guard, fun id call held => ?_, fun sessionId entry found => ?_,
    fun one other entry found _ => ?_, fun sessionId entry found => ?_⟩
  · rw [calls] at held
    cases held
  · rw [unlocked] at found
    cases found
  · rw [unlocked] at found
    cases found
  · rw [unlocked] at found
    cases found

end AgentSessionService

open AgentSessionService

/-- Operations of one session never run at the same time; a call that is stuck has a call of its
own session before it that runs or goes on; and the table is empty once no call is in flight. -/
theorem operations_serialized {service : AgentSessionService}
    (reachable : sessionServiceSystem.Reachable service) :
    (∀ first second firstCall secondCall firstEntry secondEntry,
      service.calls.get? first = some firstCall → service.calls.get? second = some secondCall →
        firstCall.phase = .running firstEntry → secondCall.phase = .running secondEntry →
          firstCall.sessionId = secondCall.sessionId → first = second) ∧
    (∀ id call, service.calls.get? id = some call → (∀ entry, call.phase ≠ .running entry) →
      service.resume? id = none →
        ∃ other otherCall, other ≠ id ∧ service.calls.get? other = some otherCall ∧
          otherCall.sessionId = call.sessionId ∧
            ((∃ entry, otherCall.phase = .running entry) ∨ (service.resume? other).isSome)) ∧
    (service.calls = .empty → service.locks = .empty) := by
  have sound := sound_of_reachable reachable
  refine ⟨?_, ?_, ?_⟩
  · intro first second firstCall secondCall firstEntry secondEntry firstHeld secondHeld firstRuns
      secondRuns same
    obtain ⟨entry, located, firstThere⟩ := sound.placed first firstCall firstHeld
    obtain ⟨other, otherLocated, secondThere⟩ := sound.placed second secondCall secondHeld
    rw [← same, located] at otherLocated
    cases otherLocated
    have runs : ∀ {id call place}, service.calls.get? id = some call →
        call.phase = .running place →
          (call.phase = .running entry ∨ call.phase = .waitingLock entry) →
            service.phase? id = some (.running entry) := by
      intro id call place held running there
      rcases there with here | waits
      · rw [← here]
        exact phase_of held
      · rw [running] at waits
        cases waits
    obtain ⟨holder, uses, _⟩ := sound.used _ entry located
    have firstHolds := (uses.running first).mp (runs firstHeld firstRuns firstThere)
    have secondHolds := (uses.running second).mp (runs secondHeld secondRuns secondThere)
    rw [firstHolds] at secondHolds
    exact Option.some.inj secondHolds
  · intro id call held unstarted stuck
    obtain ⟨entry, located, there⟩ := sound.placed id call held
    have waits : call.phase = .waitingLock entry := there.resolve_left (unstarted entry)
    obtain ⟨holder, uses, _⟩ := sound.used _ entry located
    have phased : service.phase? id = some (.waitingLock entry) := by
      rw [← waits]
      exact phase_of held
    obtain ⟨apart, listed⟩ := uses.other_of_waiting phased
    -- a call at the same entry is a call of the same session
    have mate : ∀ {other : Nat} {phase : SerializedPhase}, service.phase? other = some phase →
        (phase = .running entry ∨ phase = .waitingLock entry) →
          ∃ otherCall, service.calls.get? other = some otherCall ∧ otherCall.phase = phase ∧
            otherCall.sessionId = call.sessionId := by
      intro other phase otherPhased at_
      obtain ⟨otherCall, otherHeld, rfl⟩ := Option.map_eq_some_iff.mp otherPhased
      obtain ⟨place, otherLocated, otherThere⟩ := sound.placed other otherCall otherHeld
      have same : place = entry := by
        rcases otherThere with here | here <;> rcases at_ with there | there <;>
          rw [here] at there <;> cases there <;> rfl
      rw [same] at otherLocated
      exact ⟨otherCall, otherHeld, rfl, sound.distinct _ _ entry otherLocated located⟩
    cases holder with
    | some other =>
        obtain ⟨otherCall, otherHeld, running, same⟩ :=
          mate ((uses.running other).mpr rfl) (.inl rfl)
        exact ⟨other, otherCall, fun here => apart (congrArg some here), otherHeld, same,
          .inl ⟨entry, running⟩⟩
    | none =>
        obtain ⟨other, first, goes⟩ := uses.guards.goes_on listed
        obtain ⟨⟨otherSession, otherPhase, mustCancel⟩, otherHeld, waiting, same⟩ :=
          mate ((uses.waiting other).mpr first) (.inr rfl)
        cases waiting
        have resumes : (service.resume? other).isSome := by
          simp only [resume?, otherHeld, Option.isSome_map]
          exact goes mustCancel
        refine ⟨other, _, fun here => ?_, otherHeld, same, .inr resumes⟩
        rw [here, stuck] at resumes
        cases resumes
  · intro none
    by_contra nonempty
    cases listed : service.locks.entries with
    | nil => exact nonempty (Dict.ext listed)
    | cons first rest =>
        obtain ⟨sessionId, entry⟩ := first
        have found : service.locks.get? sessionId = some entry := by
          rw [Dict.get?_eq_some, listed]
          exact List.mem_cons_self
        obtain ⟨holder, uses, inUse⟩ := sound.used sessionId entry found
        have unphased : ∀ id, service.phase? id = Option.none := by
          intro id
          unfold AgentSessionService.phase?
          rw [none]
          rfl
        obtain ⟨id, member⟩ := List.exists_mem_of_ne_nil _ inUse
        rcases List.mem_append.mp member with holds | listed
        · have runs := (uses.running id).mpr (Option.mem_toList.mp holds)
          rw [unphased] at runs
          cases runs
        · have waits := (uses.waiting id).mpr listed
          rw [unphased] at waits
          cases waits

/-- A new service. -/
def newSessionService : AgentSessionService := ⟨.idle, .empty, fun _ => ⟨.idle, 0⟩, 0, .empty⟩

/-- Two calls of a session. -/
def twoCalls : AgentSessionService := (newSessionService.start 0 "s").start 1 "s"

/-- Two calls for one session of which one runs and the other waits are a run. -/
theorem twoCalls_reachable : sessionServiceSystem.Reachable twoCalls := by
  have started : sessionServiceSystem.Reachable newSessionService := .initial ⟨rfl, rfl, rfl⟩
  have first : sessionServiceSystem.Reachable (newSessionService.start 0 "s") :=
    started.step (.start 0 "s") rfl
  exact first.step (.start 1 "s") rfl

/-- The first call runs alone, the second waits for it, and once both have ended the
table is empty. -/
theorem second_call_waits :
    (∀ id call entry, twoCalls.calls.get? id = some call → call.phase = .running entry →
      call.sessionId = "s" → id = 0) ∧
    (∃ other call, other ≠ 1 ∧ twoCalls.calls.get? other = some call ∧ call.sessionId = "s" ∧
      ((∃ entry, call.phase = .running entry) ∨ (twoCalls.resume? other).isSome)) ∧
    ∃ handed entered ended : AgentSessionService, twoCalls.finish? 0 = some handed ∧
      handed.resume? 1 = some entered ∧ entered.finish? 1 = some ended ∧
        ended.locks = .empty := by
  have serialized := operations_serialized twoCalls_reachable
  have running : twoCalls.calls.get? 0 = some ⟨"s", .running 0, false⟩ := rfl
  refine ⟨fun id call entry held runs same => ?_, ?_, _, _, _, rfl, rfl, rfl, ?_⟩
  · exact serialized.1 id 0 call _ entry 0 held running runs rfl same
  · exact serialized.2.1 1 ⟨"s", .waitingLock 0, false⟩ rfl
      (fun _ => SerializedPhase.noConfusion) rfl
  · have handed := twoCalls_reachable.step (.finish 0) rfl
    have entered := handed.step (.resume 1) rfl
    have ended := entered.step (.finish 1) rfl
    exact (operations_serialized ended).2.2 rfl

end LarkBot
