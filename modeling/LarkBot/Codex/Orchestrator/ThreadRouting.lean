import LarkBot.Codex.Orchestrator.FinalAnswers
import LarkBot.Codex.Orchestrator.Isolation

/-! # The session that a turn event reaches

A turn event names a thread, and the orchestrator takes the first row that was bound to it. A
thread that is resumed is bound to a further session: the events of its turns keep going to the
first one, which may have ended long ago. They reach a session exactly if no row stored before its
own is bound to its thread (`LarkBot.turn_events_routed_iff`).
-/

namespace LarkBot

open Foundation

namespace CodexTables

variable {tables : CodexTables} {session : CodexSession} {threadId : String}

/-- No row stored before the one of the session is bound to the thread. -/
def FirstBound (tables : CodexTables) (session : CodexSession) (threadId : String) : Prop :=
  ∃ earlier later, tables.sessions = earlier ++ session :: later ∧
    ∀ other ∈ earlier, other.threadId ≠ some threadId

/-- The lookup by thread finds a session exactly when no earlier row is bound to the
thread. -/
theorem getSessionByThread_iff (bound : session.threadId = some threadId) :
    tables.getSessionByThread threadId = some session ↔ tables.FirstBound session threadId := by
  unfold getSessionByThread FirstBound
  rw [List.find?_eq_some_iff_append]
  constructor
  · rintro ⟨_, earlier, later, split, others⟩
    refine ⟨earlier, later, split, fun other member => ?_⟩
    have apart := others other member
    rw [Bool.not_eq_true', beq_eq_false_iff_ne] at apart
    exact apart
  · rintro ⟨earlier, later, split, others⟩
    refine ⟨beq_iff_eq.mpr bound, earlier, later, split, fun other member => ?_⟩
    rw [Bool.not_eq_true', beq_eq_false_iff_ne]
    exact others other member

/-- The session is stored with this turn. -/
def HasTurn (tables : CodexTables) (sessionId : String) (turnId : Option String) : Prop :=
  ∃ stored ∈ tables.sessions, stored.id = sessionId ∧ stored.turnId = turnId

instance (tables : CodexTables) (sessionId : String) (turnId : Option String) :
    Decidable (tables.HasTurn sessionId turnId) :=
  inferInstanceAs (Decidable (∃ stored ∈ _, _))

/-- A stored session has just the turn of its row, since ids are unique. -/
theorem hasTurn_iff {turnId : Option String} (member : session ∈ tables.sessions) :
    tables.HasTurn session.id turnId ↔ session.turnId = turnId := by
  constructor
  · rintro ⟨stored, storedMem, same, turn⟩
    rw [session_unique storedMem member same] at turn
    exact turn
  · intro turn
    exact ⟨session, member, rfl, turn⟩

end CodexTables

/-- What a completed turn leaves of a session: no turn, no pending interactions, and one event. -/
structure TurnFinished (before after : SQLiteCodexStore) (sessionId : String)
    (status : SessionStatus) : Prop where
  turn : after.tables.HasTurn sessionId none
  interactions : ∀ row ∈ before.tables.interactions, row.sessionId = sessionId →
    row.isPending → ∃ settled ∈ after.tables.interactions,
      settled.id = row.id ∧ settled.status = .cancelled
  event : ∃ item : NotificationOutboxItem, item.sessionId = some sessionId ∧
    item.notificationType = (endEvent .turnInterrupted .turnCompleted status).notification ∧
      after.outbox = before.outbox ++ [item]

section Routing

variable {environment : Environment} {self : CodexOrchestrator} {session : CodexSession}
  {threadId turnId : String} {params : JsonObject} {status : SessionStatus}

/-- The start of a turn is recorded for the session that it reaches. -/
theorem recordTurnStarted_turn (starts : StartsTurn self params session turnId) :
    (recordTurnStarted environment params).Ends self fun after _ =>
      after.store.tables.HasTurn session.id (some turnId) := by
  obtain ⟨threadId, _, found⟩ := starts.session_eq
  obtain ⟨member, active⟩ := activeSessionByThread_mem found
  apply (recordTurnStarted_core starts).mono
  intro after _ moved
  have tables : after.store.tables = _ := congrArg Core.tables moved
  have chosen : (session.id == session.id && activeStatuses.contains session.status) = true := by
    rw [beq_self_eq_true, Bool.true_and]
    exact active
  rw [tables]
  exact ⟨_, mem_updateWhere_of_selected member chosen, rfl, rfl⟩

/-- The action belongs to another session. -/
def ActsElsewhere (session : CodexSession) (core : Core) (action : CoreAction) : Prop :=
  ∃ id ≠ session.id, action.BelongsTo core id

/-- Code that acts on other sessions leaves the row of this one. -/
theorem session_kept {code : Code Progress}
    (moves : code.Ends self (MovedFrom (ActsElsewhere session) self.core))
    (member : session ∈ self.store.tables.sessions) :
    code.Ends self fun after _ => session ∈ after.store.tables.sessions := by
  have kept : session ∈ (code self).1.core.tables.sessions := by
    refine moves.invariant (fun core => session ∈ core.tables.sessions) member ?_
    rintro before action _ present ⟨id, apart, belongs⟩ rfl
    have sessions := congrArg Prod.fst (Core.perform_others belongs)
    have listed : session ∈ (before.others id).1 :=
      List.mem_filter.mpr ⟨present, bne_iff_ne.mpr apart.symm⟩
    rw [← sessions] at listed
    exact (List.mem_filter.mp listed).1
  exact kept

/-- The thread of the notification leads to another session, if to any. -/
def LeadsElsewhere (self : CodexOrchestrator) (session : CodexSession) (threadId : String) : Prop :=
  ∀ other, activeSessionByThread self.store.tables threadId = some other → other.id ≠ session.id

/-- The start of a turn leaves the row of a session that its thread does not lead to. -/
theorem recordTurnStarted_elsewhere (thread : textField params "threadId" = some threadId)
    (elsewhere : LeadsElsewhere self session threadId)
    (member : session ∈ self.store.tables.sessions) :
    (recordTurnStarted environment params).Ends self fun after _ =>
      session ∈ after.store.tables.sessions := by
  refine session_kept (recordTurnStarted_moves fun other turnId starts updatedAt => ?_) member
  obtain ⟨named, same, found⟩ := starts.session_eq
  rw [thread] at same
  cases same
  exact ⟨other.id, elsewhere other found, rfl⟩

/-- The end of a turn leaves the row of a session that its thread does not lead to. -/
theorem recordTurnCompleted_elsewhere (thread : textField params "threadId" = some threadId)
    (elsewhere : LeadsElsewhere self session threadId)
    (member : session ∈ self.store.tables.sessions) :
    (recordTurnCompleted environment params).Ends self fun after _ =>
      session ∈ after.store.tables.sessions := by
  have apart : ∀ {other turnId status}, CompletesTurn self params other turnId status →
      other.id ≠ session.id := by
    intro other turnId status completes
    obtain ⟨named, same, found⟩ := completes.session_eq
    rw [thread] at same
    cases same
    exact elsewhere other found
  exact session_kept (recordTurnCompleted_moves
    (fun other turnId status completes _ _ _ _ => ⟨other.id, apart completes, rfl⟩)
    fun other turnId status completes _ _ _ => ⟨other.id, apart completes, rfl⟩) member

/-- The end of the current turn of an active session finishes the turn. -/
theorem completeInteractiveTurn_finishes {summary : String}
    (member : session ∈ self.store.tables.sessions) (active : session.status.isActive)
    (text : turnId ≠ "") (current : session.turnId = some turnId) :
    (completeInteractiveTurn environment session.id (some turnId) status summary).Ends self
      fun after _ => TurnFinished self.store after.store session.id status := by
  have named : (some turnId).filter (fun turnId => decide (turnId ≠ "")) = some turnId := by
    simp only [Option.filter_some, text, ne_eq, not_false_eq_true, decide_true, ↓reduceIte]
  obtain ⟨ids, tables, done⟩ : ∃ ids after, self.store.tables.finishInteractiveTurn session.id
      turnId summary (asUtc (environment.now self.clockReads)) = .ok (some ids, after) :=
    CodexTables.finishInteractiveTurn_of_current member active current text
  obtain ⟨_, _, sessions, interactions⟩ := CodexTables.finishInteractiveTurn_some done
  have chosen : (session.id == session.id && session.turnId == some turnId &&
      session.status.isActive) = true := by
    simp only [current, beq_self_eq_true, active, Bool.and_self]
  have turn : tables.HasTurn session.id none := by
    unfold CodexTables.HasTurn
    rw [sessions]
    exact ⟨_, mem_updateWhere_of_selected member chosen, rfl, rfl⟩
  have present : (tables.getSession session.id).isSome := by
    obtain ⟨row, rowMem, same, _⟩ := turn
    exact Option.isSome_of_eq_some (CodexTables.getSession_eq_some.mpr ⟨rowMem, same⟩)
  unfold completeInteractiveTurn
  simp only [named, ends_utcNow_bind, ends_storeOrRaise_bind, done, Code.ends_modify_bind]
  refine (emit_stored present).bind (fun after _ sent => ?_) fun _ _ sent => by cases sent.1
  obtain ⟨_, item, about, kind, store, _⟩ := sent
  rw [Code.ends_pure, store]
  refine ⟨turn, fun row rowMem own pending => ?_, item, about, kind, rfl⟩
  have selected : (row.sessionId == session.id && row.isPending) = true := by
    rw [own, pending, beq_self_eq_true, Bool.and_self]
  refine ⟨CodexTables.close .cancelled (asUtc (environment.now self.clockReads)) row, ?_, rfl, rfl⟩
  change _ ∈ tables.interactions
  rw [interactions]
  unfold CodexTables.closed
  exact mem_updateWhere_of_selected rowMem selected

/-- The end of the current turn of a hosted session finishes the turn, when the event
reaches the session. -/
theorem recordTurnCompleted_finishes
    (completes : CompletesTurn self params session (some turnId) status)
    (hosted : session.id ∈ self.interactiveSessions) (text : turnId ≠ "")
    (current : session.turnId = some turnId) :
    (recordTurnCompleted environment params).Ends self fun after _ =>
      TurnFinished self.store after.store session.id status := by
  obtain ⟨turn, turnEq, named, read⟩ := completes.turn_eq
  obtain ⟨threadId, thread, found⟩ := completes.session_eq
  obtain ⟨member, active⟩ := activeSessionByThread_mem found
  unfold recordTurnCompleted
  simp only [thread, turnEq, Code.ends_self_bind, found, Code.ends_lift_bind, read, named]
  have taken : (takeFinalText threadId (some turnId)).Ends self fun after outcome =>
      after.store = self.store ∧
        outcome = .ok ((self.finalText.get? (threadId, turnId)).map Prod.fst) := ⟨rfl, rfl⟩
  refine taken.bind (fun middle remembered reached => ?_) fun _ _ reached => by cases reached.2
  obtain ⟨store, _⟩ := reached
  rw [if_pos hosted, ← store]
  exact completeInteractiveTurn_finishes (store.symm ▸ member) active text current

end Routing

/-- A gateway delivers a turn event of the thread that an active session of a TUI is bound to. The
turn is recorded for the session, or finished with it, exactly if no row stored before it is bound
to the thread; an empty turn id finishes nothing. -/
theorem turn_events_routed_iff {environment : Environment} {runtime after : Runtime}
    {notification : ServerNotification} {session : CodexSession} {threadId turnId : String}
    (stored : session ∈ runtime.orchestrator.store.tables.sessions)
    (active : session.status.isActive)
    (hosted : session.id ∈ runtime.orchestrator.interactiveSessions)
    (bound : session.threadId = some threadId)
    (thread : textField notification.params "threadId" = some threadId)
    (turn : (turnOf notification.params).bind (textField · "id") = some turnId)
    (delivered : runtime.step environment (.call (.processNotification notification)) =
      some after) :
    (notification.method = "turn/started" →
      (after.orchestrator.store.tables.HasTurn session.id (some turnId) ↔
        runtime.orchestrator.store.tables.FirstBound session threadId ∨
          session.turnId = some turnId)) ∧
    (notification.method = "turn/completed" → session.turnId = some turnId → ∀ object status,
      turnOf notification.params = some object →
        terminalStatus (dictGet object "status") = .ok (some status) →
          (TurnFinished runtime.orchestrator.store after.orchestrator.store session.id status ↔
            runtime.orchestrator.store.tables.FirstBound session threadId ∧ turnId ≠ "")) := by
  obtain ⟨task, code, base, runs, rfl⟩ := Runtime.runs_of_step delivered
  rw [Runtime.settle_orchestrator]
  cases runs
  generalize runtime.orchestrator = self at *
  have located : self.store.tables.FirstBound session threadId →
      activeSessionByThread self.store.tables threadId = some session := by
    intro first
    unfold activeSessionByThread
    rw [(CodexTables.getSessionByThread_iff bound).mpr first]
    exact Option.filter_some_eq_some.mpr active
  have elsewhere : ¬ self.store.tables.FirstBound session threadId →
      LeadsElsewhere self session threadId := by
    intro shadowed other found same
    have first := (Option.filter_eq_some_iff.mp found).1
    rw [CodexTables.session_unique (activeSessionByThread_mem found).1 stored same] at first
    exact shadowed ((CodexTables.getSessionByThread_iff bound).mp first)
  constructor
  · intro started
    have handled : handle environment (.processNotification notification) =
        recordTurnStarted environment notification.params :=
      processNotification_started started
    rw [handled]
    by_cases first : self.store.tables.FirstBound session threadId
    · refine iff_of_true ?_ (.inl first)
      exact recordTurnStarted_turn ⟨turn, threadId, thread, located first⟩
    · rw [or_iff_right first]
      exact CodexTables.hasTurn_iff (recordTurnStarted_elsewhere thread (elsewhere first) stored)
  · intro completed current object status object_eq read
    have handled : handle environment (.processNotification notification) =
        recordTurnCompleted environment notification.params :=
      processNotification_completed completed
    rw [handled]
    have named : textField object "id" = some turnId := by
      rw [object_eq] at turn
      exact turn
    have unfinished : ∀ {store : SQLiteCodexStore}, session ∈ store.tables.sessions →
        ¬ TurnFinished self.store store session.id status := by
      intro store kept finishes
      have cleared := (CodexTables.hasTurn_iff kept).mp finishes.turn
      rw [current] at cleared
      cases cleared
    by_cases first : self.store.tables.FirstBound session threadId
    · have completes : CompletesTurn self notification.params session (some turnId) status :=
        ⟨⟨object, object_eq, named, read⟩, threadId, thread, located first⟩
      by_cases text : turnId = ""
      · refine iff_of_false (unfinished ?_) fun both => both.2 text
        have early : ¬ self.EndsTurn session turnId := fun ends => (ends hosted).1 text
        have kept :
            (recordTurnCompleted environment notification.params self).1.store.tables =
              self.store.tables := (recordTurnCompleted_early thread completes early).1
        exact kept.symm ▸ stored
      · exact iff_of_true (recordTurnCompleted_finishes completes hosted text current)
          ⟨first, text⟩
    · exact iff_of_false
        (unfinished (recordTurnCompleted_elsewhere thread (elsewhere first) stored))
        fun both => first both.1

section Scenarios

/-- A session that the TUI of a thread hosts, and the turn that its gateway announces. -/
def RecordsTurn (runtime : Runtime) (session : CodexSession) (recorded : Bool) : Prop :=
  session.status.isActive ∧ session.id ∈ runtime.orchestrator.interactiveSessions ∧
    session.threadId = some "thread" ∧
      (runtime.step tickingEnvironment turnStartedEvent).any fun after =>
        decide (after.orchestrator.store.tables.HasTurn session.id (some "turn")) = recorded

instance (runtime : Runtime) (session : CodexSession) (recorded : Bool) :
    Decidable (RecordsTurn runtime session recorded) :=
  inferInstanceAs (Decidable (_ ∧ _))

/-- A thread that a second session resumes once the first one is closed. -/
def resumedThread : List Event :=
  boundThread ++ [.call (.closeInteractiveSession "id-0"),
    .call (.createInteractiveSession "name" "/work" none "workspace-write"),
    .call (.bindInteractiveThread "id-1" "thread" none)]

/-- The turn of a thread that one session is bound to is recorded. -/
theorem started_turn_recorded : ∃ runtime after : Runtime,
    runtime.step tickingEnvironment turnStartedEvent = some after ∧
      after.orchestrator.store.tables.HasTurn "id-0" (some "turn") := by
  have reached : ∃ runtime, (orchestratorSystem tickingEnvironment).ReachableVia
      (fun _ _ => True) runtime ∧
        (runtime.orchestrator.store.tables.sessions.head?).any fun session =>
          session.id = "id-0" ∧ RecordsTurn runtime session true :=
    reachable_of_scenario (fun _ _ => true) boundThread (fun _ _ _ => trivial) (by decide)
  obtain ⟨runtime, _, checked⟩ := reached
  obtain ⟨session, first, holds⟩ := (Option.any_eq_true _ _).mp checked
  obtain ⟨named, active, hosted, bound, steps⟩ := of_decide_eq_true holds
  obtain ⟨after, stepped, _⟩ := (Option.any_eq_true _ _).mp steps
  obtain ⟨later, sessions⟩ : ∃ later, runtime.orchestrator.store.tables.sessions =
      session :: later := List.head?_eq_some_iff.mp first
  have stored : session ∈ runtime.orchestrator.store.tables.sessions := by
    rw [sessions]
    exact List.mem_cons_self
  have firstBound : runtime.orchestrator.store.tables.FirstBound session "thread" :=
    ⟨[], later, sessions, fun _ member => absurd member List.not_mem_nil⟩
  have recorded := ((turn_events_routed_iff stored active hosted bound rfl rfl stepped).1
    rfl).mpr (.inl firstBound)
  rw [named] at recorded
  exact ⟨runtime, after, stepped, recorded⟩

/-- The turn of a resumed thread is not recorded for the session that hosts it. -/
theorem resumed_turn_lost : ¬ ∀ (runtime after : Runtime) (session : CodexSession),
    (orchestratorSystem tickingEnvironment).Reachable runtime →
      session ∈ runtime.orchestrator.store.tables.sessions → session.status.isActive →
        session.id ∈ runtime.orchestrator.interactiveSessions →
          session.threadId = some "thread" →
            runtime.step tickingEnvironment turnStartedEvent = some after →
              after.orchestrator.store.tables.HasTurn session.id (some "turn") := by
  intro claim
  have reached : ∃ runtime, (orchestratorSystem tickingEnvironment).ReachableVia
      (fun _ _ => True) runtime ∧
        ∃ session ∈ runtime.orchestrator.store.tables.sessions, RecordsTurn runtime session false :=
    reachable_of_scenario (fun _ _ => true) resumedThread (fun _ _ _ => trivial) (by decide)
  obtain ⟨runtime, reachable, session, stored, active, hosted, bound, steps⟩ := reached
  obtain ⟨after, stepped, lost⟩ := (Option.any_eq_true _ _).mp steps
  have recorded := claim runtime after session reachable stored active hosted bound stepped
  rw [decide_eq_true_iff, decide_eq_false_iff_not] at lost
  exact lost recorded

end Scenarios

end LarkBot
