import LarkBot.Codex.Orchestrator.Runtime
import LarkBot.Codex.Store.Notices

/-! # Every segment of code writes a journal

What the code of a segment commits is a journal of the store: each session it
ends is reported by its next transaction, and each other event it emits is about
a session that is active in the database it finds (`LarkBot.Runtime.runs_journals`).
A restart ends all active sessions at once (`LarkBot.start_moves`).
-/

namespace LarkBot

open Foundation

/-- Since the store and its log were these, the code committed a journal. -/
def CodexOrchestrator.Continues (self : CodexOrchestrator) (start : SQLiteCodexStore)
    (log : List SQLiteCodexStore) : Prop :=
  ∃ commits, self.commits = log ++ commits ∧ Journal start commits self.store

/-- The tables hold an active session with this id. -/
def CodexTables.HasActive (tables : CodexTables) (sessionId : String) : Prop :=
  ∃ session ∈ tables.sessions, session.id = sessionId ∧ session.status.isActive

/-- An update of the session that leaves it active. -/
theorem CodexTables.HasActive.of_updateWhere {tables : CodexTables} {sessionId : String}
    {selected : CodexSession → Bool} {change : CodexSession → CodexSession}
    {rows : List CodexSession} {session : CodexSession}
    (updated : tables.sessions = updateWhere selected change rows) (member : session ∈ rows)
    (chosen : selected session) (same : (change session).id = sessionId)
    (active : (change session).status.isActive) : tables.HasActive sessionId :=
  ⟨change session, updated ▸ mem_updateWhere_of_selected member chosen, same, active⟩

/-- The code ends after it committed a journal. -/
def Journals {α : Type} (start : SQLiteCodexStore) (log : List SQLiteCodexStore)
    (after : CodexOrchestrator) (_ : Except PyError α) : Prop :=
  after.Continues start log

namespace CodexOrchestrator.Continues

variable {self after : CodexOrchestrator} {start : SQLiteCodexStore}
  {log : List SQLiteCodexStore}

/-- Code that has done nothing continues the empty journal. -/
theorem refl (self : CodexOrchestrator) : self.Continues self.store self.commits :=
  ⟨[], (List.append_nil _).symm, .nil⟩

/-- One move of the store continues a journal. -/
theorem move (continues : self.Continues start log) {commits : List SQLiteCodexStore}
    (committed : after.commits = self.commits ++ commits) {ids : List String}
    (moved : StoreMove self.store ids commits after.store) (single : ids.length ≤ 1) :
    after.Continues start log := by
  obtain ⟨earlier, logged, journal⟩ := continues
  refine ⟨earlier ++ commits, ?_, .move journal single moved⟩
  rw [committed, logged, List.append_assoc]

/-- A transaction that ends no session continues a journal. -/
theorem write (continues : self.Continues start log) {tables : CodexTables}
    (transacts : self.store.tables.Transacts tables .running []) :
    (self.commitTables tables).Continues start log := by
  have moved := StoreMove.transact tables .running [] [] transacts rfl
    fun _ absent => absurd absent List.not_mem_nil
  rw [List.append_nil] at moved
  exact continues.move rfl moved (Nat.zero_le 1)

end CodexOrchestrator.Continues

section Emit

variable {environment : Environment} {eventType : OrchestratorEventType} {sessionId : String}
  {status : SessionStatus} {summary : String} {interactionId : Option String}
  {self : CodexOrchestrator}

/-- An event commits its row, or raises and commits nothing. -/
theorem emit_commits :
    (emit environment eventType sessionId status summary interactionId).Ends self
      fun after outcome =>
        (outcome ≠ .ok () ∧ after.store = self.store ∧ after.commits = self.commits) ∨
        ∃ item : NotificationOutboxItem, item.sessionId = some sessionId ∧
          item.notificationType = eventType.notification ∧
          after.store = { self.store with outbox := self.store.outbox ++ [item] } ∧
          after.commits = self.commits ++ [after.store] := by
  unfold emit
  simp only [ends_utcNow_bind, ends_getSession_bind, ends_enqueueOutbox_bind, Code.ends_modify]
  split
  next store enqueued =>
    have appended := SQLiteCodexStore.enqueueOutbox_ok enqueued
    split
    all_goals
      refine Or.inr ⟨_, ?_, ?_, appended, rfl⟩
      · rfl
      · rfl
  next => exact Or.inl ⟨fun impossible => (by cases impossible), trivial, trivial⟩

/-- An event about a stored session commits its row. -/
theorem emit_stored (stored : (self.store.tables.getSession sessionId).isSome) :
    (emit environment eventType sessionId status summary none).Ends self
      fun after outcome => outcome = .ok () ∧
        ∃ item : NotificationOutboxItem, item.sessionId = some sessionId ∧
          item.notificationType = eventType.notification ∧
          after.store = { self.store with outbox := self.store.outbox ++ [item] } ∧
          after.commits = self.commits ++ [after.store] := by
  refine (emit_commits.and (emit_ok stored fun _ absent => by cases absent)).mono ?_
  rintro after outcome ⟨⟨refused, _⟩ | committed, sent⟩
  · exact absurd sent refused
  · exact ⟨sent, committed⟩

variable {start : SQLiteCodexStore} {log : List SQLiteCodexStore}

/-- The event of an active session continues a journal. -/
theorem emit_journals (continues : self.Continues start log) (interim : eventType.IsInterim)
    (present : self.store.tables.HasActive sessionId) :
    (emit environment eventType sessionId status summary interactionId).Ends self
      (Journals start log) := by
  obtain ⟨session, member, same, active⟩ := present
  apply emit_commits.mono
  intro after _ committed
  rcases committed with ⟨_, sameStore, sameLog⟩ | ⟨item, about, named, store, commits⟩
  · obtain ⟨earlier, logged, journal⟩ := continues
    exact ⟨earlier, sameLog ▸ logged, sameStore ▸ journal⟩
  · have moved := StoreMove.announce item session eventType member active
      (about.trans (congrArg some same.symm)) interim named
    rw [← store] at moved
    exact continues.move commits moved (Nat.zero_le 1)

/-- The event that reports the session which the last transaction ended. -/
theorem emit_end_journals {before : CodexOrchestrator} (continues : before.Continues start log)
    {tables : CodexTables} {ended : SessionStatus}
    (transacts : before.store.tables.Transacts tables ended [sessionId])
    (store : self.store = { before.store with tables })
    (commits : self.commits = before.commits ++ [self.store])
    (event : eventType = sessionEndEvent ended) :
    (emit environment eventType sessionId status summary none).Ends self
      (Journals start log) := by
  obtain ⟨_, session, member, same, _⟩ := transacts.ended sessionId (List.mem_singleton_self _)
  have stored : (self.store.tables.getSession sessionId).isSome :=
    Option.isSome_of_eq_some (CodexTables.getSession_eq_some.mpr ⟨store ▸ member, same⟩)
  apply (emit_stored stored).mono
  intro after _ ends
  obtain ⟨_, item, about, named, appended, logged⟩ := ends
  have moved := StoreMove.transact tables ended [sessionId] [item] transacts
    (congrArg (fun id => [id]) about)
    fun other listed => List.mem_singleton.mp listed ▸ event ▸ named
  have middle : self.store = ⟨tables, before.store.outbox⟩ := store
  have final : after.store = ⟨tables, before.store.outbox ++ [item]⟩ := by
    rw [appended, middle]
  simp only [SQLiteCodexStore.afterEach, ← middle, ← final] at moved
  refine continues.move ?_ moved (Nat.le_refl 1)
  rw [logged, commits, List.append_assoc]
  rfl

end Emit

section Segments

variable {environment : Environment} {self : CodexOrchestrator} {start : SQLiteCodexStore}
  {log : List SQLiteCodexStore}

/-- Code that goes on after code that committed a journal. -/
theorem journals_bind {α β : Type} {first : Code α} {next : α → Code β}
    (journals : first.Ends self (Journals start log))
    (goesOn : ∀ middle value, middle.Continues start log →
      (next value).Ends middle (Journals start log)) :
    (first >>= next).Ends self (Journals start log) :=
  journals.bind goesOn fun _ _ continues => continues

/-- A claim that does not win ends no session. -/
theorem continues_of_unclaimed {sessionId summary : String} {status : SessionStatus}
    {pendingStatus : InteractionStatus} {updatedAt : Instant} {tables : CodexTables}
    (continues : self.Continues start log)
    (done : self.store.tables.claimSessionTerminal sessionId status summary pendingStatus
      updatedAt = .ok (none, tables)) : (self.commitTables tables).Continues start log :=
  continues.write (.of_eq (congrArg CodexTables.sessions
    (CodexTables.claimSessionTerminal_none done).1))

/-- What follows the claim of a session starts with the event of its end. -/
theorem end_journals {α : Type} {sessionId summary : String} {ended status : SessionStatus}
    {pendingStatus : InteractionStatus} {updatedAt : Instant} {ids : List String}
    {tables : CodexTables} {eventType : OrchestratorEventType} {text : String}
    {next : Unit → Code α} {before : CodexOrchestrator} (continues : before.Continues start log)
    (done : before.store.tables.claimSessionTerminal sessionId ended summary pendingStatus
      updatedAt = .ok (some ids, tables))
    (store : self.store = { before.store with tables })
    (commits : self.commits = before.commits ++ [self.store])
    (event : eventType = sessionEndEvent ended)
    (goesOn : ∀ middle, middle.Continues start log → (next ()).Ends middle (Journals start log)) :
    (emit environment eventType sessionId status text none >>= next).Ends self
      (Journals start log) :=
  journals_bind (emit_end_journals continues (CodexTables.claimSessionTerminal_transacts done)
    store commits event) fun middle _ => goesOn middle

/-- Interrupting a session ends it and reports the end next, or writes nothing. -/
theorem interruptSession_journals {sessionId summary : String}
    (continues : self.Continues start log) :
    (interruptSession environment sessionId summary).Ends self (Journals start log) := by
  unfold interruptSession
  simp only [ends_getSession_bind]
  split
  next => exact continues
  next session found =>
    split
    next => exact continues
    next =>
      simp only [ends_utcNow_bind, ends_storeOrRaise_bind]
      split
      next ids tables done =>
        cases ids with
        | none => exact continues_of_unclaimed continues done
        | some ids =>
            simp only [Code.ends_modify_bind]
            exact end_journals continues done rfl rfl rfl fun _ continues => continues
      next => exact continues

/-- Interrupting the sessions of a list one by one continues the journal, by induction
on the list. -/
theorem interruptSessions_journals {summary : String} (sessions : List CodexSession)
    (continues : self.Continues start log) :
    (interruptSessions environment summary sessions).Ends self (Journals start log) := by
  induction sessions generalizing self with
  | nil => exact continues
  | cons session rest ih =>
      unfold interruptSessions
      cases session.status.isActive with
      | false => exact ih continues
      | true =>
          refine journals_bind (journals_bind (interruptSession_journals continues) ?_) ?_
          · exact fun _ _ continues => continues
          · exact fun _ _ continues => ih continues

/-- A consumer that fails reports each session that it interrupts. -/
theorem consumerFailed_journals {error : PyError} (continues : self.Continues start log) :
    (consumerFailed environment error).Ends self (Journals start log) := by
  unfold consumerFailed
  simp only [Code.ends_modify_bind, Code.ends_self_bind]
  exact journals_bind (interruptSessions_journals _ continues) fun _ _ continues => continues

/-- A consumer continues the journal as its handler does, also where the handler raises. -/
theorem consuming_journals {handler : Code Progress}
    (journals : handler.Ends self (Journals start log)) :
    (consuming environment handler).Ends self (Journals start log) := by
  unfold consuming
  rw [Code.ends_catchAll]
  apply journals.mono
  intro middle outcome continues
  cases outcome with
  | ok _ => exact continues
  | error error =>
      simp only
      split
      next => exact continues
      next => exact consumerFailed_journals continues

/-- A failed start ends its session and reports the failure before the error goes on. -/
theorem startupFailed_journals {sessionId : String} {error : PyError}
    (continues : self.Continues start log) :
    (startupFailed environment sessionId error).Ends self (Journals start log) := by
  unfold startupFailed
  simp only [ends_utcNow_bind, ends_storeOrRaise_bind]
  split
  next ids tables done =>
    cases ids with
    | none => exact continues_of_unclaimed continues done
    | some ids => exact end_journals continues done rfl rfl rfl fun _ continues => continues
  next => exact continues

/-- A session that is expected to be starting is active. -/
theorem starting_isActive {status : SessionStatus}
    (expected : [SessionStatus.starting].contains status) : status.isActive :=
  SessionUpdate.isActive_of_expected (.startThread "") expected

/-- A managed session is inserted by a transaction that ends no session. -/
theorem createSession_journals {name cwd prompt sandbox : String} {model : Option String}
    (continues : self.Continues start log) :
    (createSession environment name cwd prompt model sandbox).Ends self
      (Journals start log) := by
  unfold createSession
  simp only [ends_utcNow_bind, ends_newId_bind, ends_storeOrRaise_bind, Except.map]
  split
  next outcome =>
    split at outcome
    next => cases outcome
    next created =>
      cases outcome
      exact continues.write (CodexTables.createSession_transacts rfl created)
  next => exact continues

/-- An interactive session is inserted by a transaction that ends no session. -/
theorem createInteractiveSession_journals {name cwd sandbox : String} {model : Option String}
    (continues : self.Continues start log) :
    (createInteractiveSession environment name cwd model sandbox).Ends self
      (Journals start log) := by
  unfold createInteractiveSession
  simp only [ends_utcNow_bind, ends_newId_bind, ends_storeOrRaise_bind, Except.map]
  split
  next outcome =>
    split at outcome
    next => cases outcome
    next created =>
      cases outcome
      exact continues.write (CodexTables.createSession_transacts rfl created)
  next => exact continues

/-- Binding the thread of a session writes its row and ends none. -/
theorem bindInteractiveThread_journals {sessionId threadId : String} {turnId : Option String}
    (continues : self.Continues start log) :
    (bindInteractiveThread environment sessionId threadId turnId).Ends self
      (Journals start log) := by
  unfold bindInteractiveThread
  split_ifs
  · exact continues
  · exact continues
  · exact continues.write
      (CodexTables.updateSessionIfStatus_transacts fun _ => starting_isActive)

/-- The reply to the thread request updates the starting session, or fails its start
with the report due. -/
theorem threadStarted_journals {sessionId prompt : String} {reply : Reply}
    (continues : self.Continues start log) :
    (threadStarted environment sessionId prompt reply).Ends self (Journals start log) := by
  unfold threadStarted
  rw [Code.ends_catchAll]
  refine startupReply_ends (fun error _ => startupFailed_journals continues) fun threadId _ => ?_
  simp only [ends_utcNow_bind, ends_store_bind]
  have updated : (self.commitTables (self.store.tables.updateSessionIfStatus sessionId [.starting]
      .running (some (some threadId)) none (asUtc (environment.now self.clockReads))).2).Continues
        start log :=
    continues.write (CodexTables.updateSessionIfStatus_transacts fun _ => starting_isActive)
  split
  next =>
    rw [Code.ends_pure]
    exact updated
  next =>
    rw [Code.ends_raise]
    exact startupFailed_journals updated

/-- The reply to the first turn request announces a session that is active, or fails its
start with the report due. -/
theorem turnStarted_journals {sessionId : String} {reply : Reply}
    (continues : self.Continues start log) :
    (turnStarted environment sessionId reply).Ends self (Journals start log) := by
  unfold turnStarted
  rw [Code.ends_catchAll]
  refine startupReply_ends (fun error _ => startupFailed_journals continues) fun turnId _ => ?_
  simp only [ends_utcNow_bind, ends_store_bind]
  have recorded : ({ self with clockReads := self.clockReads + 1 }.commitTables
      (self.store.tables.updateSessionIfStatus sessionId activeStatuses .running none
        (some (some turnId)) (asUtc (environment.now self.clockReads))).2).Continues start log :=
    continues.write (CodexTables.updateSessionIfStatus_transacts fun _ active => active)
  split
  next updated =>
    obtain ⟨session, member, same, active⟩ := CodexTables.updateSessionIfStatus_fst.mp updated
    simp only [ends_getSession_bind]
    split
    next =>
      rw [Code.ends_raise]
      exact startupFailed_journals recorded
    next current _ =>
      have chosen : (session.id == sessionId && activeStatuses.contains session.status) = true :=
        (Bool.and_eq_true _ _).mpr ⟨beq_iff_eq.mpr same, active⟩
      have interim : OrchestratorEventType.IsInterim .sessionStarted := ⟨by decide, by decide⟩
      refine (emit_journals recorded interim
        (.of_updateWhere rfl member chosen same rfl)).bind ?_ ?_
      · exact fun _ _ continues => continues
      · exact fun _ _ continues => startupFailed_journals continues
  next =>
    rw [Code.ends_raise]
    exact startupFailed_journals recorded

/-- A cancelled session is reported right after the transaction that ended it. -/
theorem cancelSession_journals {sessionId : String} (continues : self.Continues start log) :
    (cancelSession environment sessionId).Ends self (Journals start log) := by
  unfold cancelSession
  simp only [ends_getSession_bind]
  split
  next => exact continues
  next session found =>
    split
    next => exact continues
    next =>
      simp only [ends_utcNow_bind, ends_storeOrRaise_bind]
      split
      next ids tables done =>
        cases ids with
        | none => exact continues_of_unclaimed continues done
        | some ids =>
            simp only [Code.ends_modify_bind]
            apply end_journals continues done rfl rfl rfl
            intro _ continues
            split
            next => exact continues
            next => exact continues
      next => exact continues

/-- A closed interactive session is reported right after the transaction that ended it. -/
theorem closeInteractiveSession_journals {sessionId : String}
    (continues : self.Continues start log) :
    (closeInteractiveSession environment sessionId).Ends self (Journals start log) := by
  unfold closeInteractiveSession
  simp only [Code.ends_modify_bind, ends_getSession_bind]
  split
  next => exact continues
  next session found =>
    split
    next => exact continues
    next =>
      simp only [ends_utcNow_bind, ends_storeOrRaise_bind]
      split
      next ids tables done =>
        cases ids with
        | none => exact continues_of_unclaimed continues done
        | some ids =>
            simp only [Code.ends_modify_bind]
            exact end_journals continues done rfl rfl rfl fun _ continues => continues
      next => exact continues

/-- When the app-server ends, each session that is interrupted is reported in turn. -/
theorem monitorAppServer_journals {outcome : Option PyError}
    (continues : self.Continues start log) :
    (monitorAppServer environment outcome).Ends self (Journals start log) := by
  unfold monitorAppServer
  simp only [Code.ends_self_bind]
  split_ifs
  · exact continues
  · exact continues
  · exact journals_bind (interruptSessions_journals _ continues) fun _ _ continues => continues

/-- A request is announced for a session that the same segment has found active. -/
theorem processServerRequest_journals {request : ServerRequest} {sessionId : Option String}
    {responder : Option Responder} (continues : self.Continues start log) :
    (processServerRequest environment request sessionId responder).Ends self
      (Journals start log) := by
  unfold processServerRequest
  split
  next => exact continues
  next kind _ =>
    simp only [Code.ends_self_bind]
    split
    next => exact continues
    next session _ =>
      split_ifs
      · exact continues
      · exact continues
      · simp only [ends_utcNow_bind, ends_newId_bind, ends_storeOrRaise_bind]
        split
        next created tables done =>
          have inserted : (self.commitTables tables).Continues start log :=
            continues.write (CodexTables.createInteractionAndMarkWaiting_transacts done)
          cases created with
          | false => exact inserted
          | true =>
              obtain ⟨⟨owner, ownerMem, ownerId, ownerActive⟩, _, active, sessions, _⟩ :=
                CodexTables.createInteractionAndMarkWaiting_true done
              simp only [↓reduceIte, Code.ends_modify_bind]
              refine journals_bind (emit_journals inserted ⟨by decide, by decide⟩
                (.of_updateWhere sessions ownerMem ?_ ownerId active)) ?_
              · exact (Bool.and_eq_true _ _).mpr ⟨beq_iff_eq.mpr ownerId, ownerActive⟩
              · exact fun _ _ continues => continues
        next => exact continues

/-- A request that a consumer takes continues the journal, and so does the failure of
the consumer. -/
theorem consumeRequest_journals {request : ServerRequest}
    (continues : self.Continues start log) :
    (consumeRequest environment request).Ends self (Journals start log) := by
  unfold consumeRequest
  apply journals_bind (consuming_journals (processServerRequest_journals continues))
  intro middle progress continues
  split
  next => exact continues
  next => exact continues

/-- After a refusal was sent, or failed to be, the journal goes on. -/
theorem requestErrorSent_journals {consumer : Bool} {reply : Reply}
    (continues : self.Continues start log) :
    (requestErrorSent environment consumer reply).Ends self (Journals start log) := by
  unfold requestErrorSent
  split
  next => exact continues
  next =>
    split
    next => exact consuming_journals continues
    next => exact continues

/-- Claiming an answer settles a row and ends no session. -/
theorem claimAndRespond_journals {live : LiveInteraction} {interactionId : String}
    {response : Json} {decision actorId : String} (continues : self.Continues start log) :
    (claimAndRespond environment live interactionId response decision actorId).Ends self
      (Journals start log) := by
  unfold claimAndRespond
  simp only [ends_utcNow_bind, ends_storeOrRaise_bind]
  split
  next won tables done =>
    have claimed : (self.commitTables tables).Continues start log :=
      continues.write (CodexTables.resolveInteractionAndRefreshSession_transacts done)
    cases won with
    | false => exact claimed
    | true => exact claimed
  next => exact continues

/-- The answer of a user writes at most the claim of its row. -/
theorem resolveInteraction_journals {interactionId actorId : String} {allow : Option Bool}
    {answers : Option (List (String × String))} (continues : self.Continues start log) :
    (resolveInteraction environment interactionId actorId allow answers).Ends self
      (Journals start log) := by
  unfold resolveInteraction
  simp only [Code.ends_self_bind]
  split
  next => exact continues
  next live _ =>
    rw [Code.ends_lift_bind]
    split
    next => exact claimAndRespond_journals continues
    next => exact continues

/-- The answer of the terminal writes at most the claim of its row. -/
theorem resolveTerminalRequest_journals {requestId : RequestId} {result : Json}
    (continues : self.Continues start log) :
    (resolveTerminalRequest environment requestId result).Ends self (Journals start log) := by
  unfold resolveTerminalRequest
  simp only [Code.ends_self_bind]
  split
  next => exact continues
  next live _ =>
    rw [Code.ends_lift_bind]
    split
    next => exact claimAndRespond_journals continues
    next => exact continues

/-- An event that is emitted only about an active session. -/
theorem onlyIf_emit_journals {α : Type} {session : CodexSession} {sessionId summary : String}
    {eventType : OrchestratorEventType} {status : SessionStatus} {interactionId : Option String}
    {next : Unit → Code α} (continues : self.Continues start log)
    (found : self.store.tables.getSession sessionId = some session)
    (interim : eventType.IsInterim)
    (goesOn : ∀ middle, middle.Continues start log → (next ()).Ends middle (Journals start log)) :
    (Code.onlyIf session.status.isActive
      (emit environment eventType sessionId status summary interactionId) >>= next).Ends self
        (Journals start log) := by
  obtain ⟨member, same⟩ := CodexTables.getSession_eq_some.mp found
  cases active : session.status.isActive with
  | false => exact goesOn self continues
  | true =>
      exact journals_bind (emit_journals continues interim ⟨session, member, same, active⟩)
        fun middle _ => goesOn middle

/-- A response that was sent is announced only while its session is active; one that
failed interrupts the session. -/
theorem responseSent_journals {live : LiveInteraction} {decision : String} {reply : Reply}
    (continues : self.Continues start log) :
    (responseSent environment live decision reply).Ends self (Journals start log) := by
  unfold responseSent
  split
  next =>
    exact journals_bind (interruptSession_journals continues) fun _ _ continues => continues
  next =>
    simp only [ends_getSession_bind]
    split
    next => exact continues
    next session found =>
      exact onlyIf_emit_journals continues found ⟨by decide, by decide⟩
        fun _ continues => continues

/-- An overdue question interrupts its session with the report due; an approval is
denied without a write. -/
theorem answerExpired_journals {interactionId : String} {live : LiveInteraction}
    {pass : ExpiryPass} (continues : self.Continues start log) :
    (answerExpired environment interactionId live pass).Ends self (Journals start log) := by
  unfold answerExpired
  dsimp only
  split
  next =>
    simp only [ends_getSession_bind]
    split
    next => exact continues
    next =>
      exact journals_bind (interruptSession_journals continues) fun _ _ continues => continues
  next =>
    rw [Code.ends_lift_bind]
    split
    next => exact continues
    next => exact continues

/-- Each overdue row is settled by one transaction, and the pass goes on from there. -/
theorem expireNext_journals {pass : ExpiryPass} (continues : self.Continues start log) :
    (expireNext environment pass).Ends self (Journals start log) := by
  unfold expireNext
  split
  next => exact continues
  next interactionId live rest _ =>
    dsimp only
    split
    next => exact continues
    next =>
      rw [Code.ends_lift_bind]
      split
      next decision _ =>
        simp only [ends_storeOrRaise_bind]
        split
        next won tables done =>
          have claimed : (self.commitTables tables).Continues start log :=
            continues.write (CodexTables.resolveInteractionAndRefreshSession_transacts done)
          cases won with
          | false => exact claimed
          | true =>
              simp only [↓reduceIte, popLive, Code.ends_modify_bind]
              exact answerExpired_journals claimed
        next => exact continues
      next => exact continues

/-- After the interrupt of an overdue question its session is interrupted with the
report due. -/
theorem expireInterrupted_journals {live : LiveInteraction} {pass : ExpiryPass} {reply : Reply}
    (continues : self.Continues start log) :
    (expireInterrupted environment live pass reply).Ends self (Journals start log) := by
  unfold expireInterrupted
  apply journals_bind (interruptSession_journals continues)
  intro _ _ continues
  split
  next => exact continues
  next => exact continues

/-- After the denial of an overdue request its session is announced as long as it is active; a
denial that failed interrupts the session. -/
theorem expireResponded_journals {interactionId : String} {live : LiveInteraction}
    {pass : ExpiryPass} {reply : Reply} (continues : self.Continues start log) :
    (expireResponded environment interactionId live pass reply).Ends self
      (Journals start log) := by
  unfold expireResponded
  split
  next =>
    exact journals_bind (interruptSession_journals continues) fun _ _ continues => continues
  next =>
    simp only [ends_getSession_bind]
    split
    next => exact continues
    next session found =>
      exact onlyIf_emit_journals continues found ⟨by decide, by decide⟩
        fun _ continues => continues

/-- The notice that a request was resolved cancels its row and ends no session. -/
theorem requestResolved_journals {params : JsonObject} (continues : self.Continues start log) :
    (requestResolved environment params).Ends self (Journals start log) := by
  unfold requestResolved
  split
  next => exact continues
  next requestId _ =>
    simp only [Code.ends_self_bind]
    split
    next => exact continues
    next live _ =>
      exact continues.write (CodexTables.cancelInteractionAndRefreshSession_transacts _ _)

/-- The start of a turn updates the row of an active session. -/
theorem recordTurnStarted_journals {params : JsonObject}
    (continues : self.Continues start log) :
    (recordTurnStarted environment params).Ends self (Journals start log) := by
  unfold recordTurnStarted
  split
  next =>
    simp only [Code.ends_self_bind]
    split
    next => exact continues
    next =>
      simp only [ends_utcNow_bind, ends_store_bind]
      exact continues.write (CodexTables.updateSessionIfStatus_transacts fun _ active => active)
  next => exact continues

/-- The end of an interactive turn finishes the turn and announces it for the session,
which stays active. -/
theorem completeInteractiveTurn_journals {sessionId summary : String} {turnId : Option String}
    {status : SessionStatus} (continues : self.Continues start log) :
    (completeInteractiveTurn environment sessionId turnId status summary).Ends self
      (Journals start log) := by
  unfold completeInteractiveTurn
  split
  next => exact continues
  next current _ =>
    simp only [ends_utcNow_bind, ends_storeOrRaise_bind]
    split
    next ids tables done =>
      cases ids with
      | none =>
          exact continues.write (.of_eq (congrArg CodexTables.sessions
            (CodexTables.finishInteractiveTurn_none done).1))
      | some ids =>
          have finished : (self.commitTables tables).Continues start log :=
            continues.write (CodexTables.finishInteractiveTurn_transacts done)
          obtain ⟨⟨session, member, same, turn, active⟩, _, sessions, _⟩ :=
            CodexTables.finishInteractiveTurn_some done
          have interim : (endEvent .turnInterrupted .turnCompleted status).IsInterim := by
            unfold endEvent
            split <;> exact ⟨by decide, by decide⟩
          simp only [Code.ends_modify_bind]
          refine journals_bind (emit_journals finished interim
            (.of_updateWhere sessions member ?_ same rfl)) ?_
          · simp only [same, turn, beq_self_eq_true, active, Bool.and_self]
          · exact fun _ _ continues => continues
    next => exact continues

/-- The end of a managed turn ends its session and reports the end next. -/
theorem completeSession_journals {sessionId summary : String} {status : SessionStatus}
    (continues : self.Continues start log) :
    (completeSession environment sessionId status summary).Ends self (Journals start log) := by
  unfold completeSession
  simp only [ends_utcNow_bind, ends_storeOrRaise_bind]
  split
  next ids tables done =>
    cases ids with
    | none => exact continues_of_unclaimed continues done
    | some ids =>
        simp only [Code.ends_modify_bind]
        exact end_journals continues done rfl rfl rfl fun _ continues => continues
  next => exact continues

/-- Taking the text of a turn writes nothing to the store. -/
theorem takeFinalText_journals {threadId : String} {turnId : Option String}
    (continues : self.Continues start log) :
    (takeFinalText threadId turnId).Ends self (Journals start log) := by
  cases turnId <;> exact continues

/-- A completed turn ends its session or finishes its turn, and either is reported next. -/
theorem recordTurnCompleted_journals {params : JsonObject}
    (continues : self.Continues start log) :
    (recordTurnCompleted environment params).Ends self (Journals start log) := by
  unfold recordTurnCompleted
  split
  next =>
    simp only [Code.ends_self_bind]
    split
    next => exact continues
    next session _ =>
      rw [Code.ends_lift_bind]
      split
      next status _ =>
        split
        next => exact continues
        next =>
          apply journals_bind (takeFinalText_journals continues)
          intro middle _ continues
          split
          next => exact completeInteractiveTurn_journals continues
          next => exact completeSession_journals continues
      next => exact continues
  next => exact continues

/-- Remembering the text of a turn writes nothing to the store. -/
theorem rememberFinalText_writes (params : JsonObject) (self : CodexOrchestrator) :
    (rememberFinalText params self).store = self.store ∧
      (rememberFinalText params self).commits = self.commits := by
  unfold rememberFinalText
  split
  next =>
    split
    next =>
      split
      next =>
        dsimp only
        split <;> exact ⟨rfl, rfl⟩
      next => exact ⟨rfl, rfl⟩
    next => exact ⟨rfl, rfl⟩
  next => exact ⟨rfl, rfl⟩

/-- Whatever a notification says, its handler continues the journal. -/
theorem processNotification_journals {notification : ServerNotification}
    (continues : self.Continues start log) :
    (processNotification environment notification).Ends self (Journals start log) := by
  unfold processNotification
  split_ifs
  · exact requestResolved_journals continues
  · obtain ⟨sameStore, sameLog⟩ := rememberFinalText_writes notification.params self
    obtain ⟨commits, logged, journal⟩ := continues
    exact ⟨commits, sameLog.trans logged, sameStore ▸ journal⟩
  · exact recordTurnStarted_journals continues
  · exact recordTurnCompleted_journals continues
  · exact continues

/-- The reply of the app-server's close is recorded in private state only. -/
theorem appServerClosed_journals {reply : Reply} (continues : self.Continues start log) :
    (appServerClosed reply).Ends self (Journals start log) := by
  cases reply <;> exact continues

/-- The reply to the interrupt of a cancelled session writes nothing to the store. -/
theorem cancelInterrupted_journals {reply : Reply} (continues : self.Continues start log) :
    (cancelInterrupted reply).Ends self (Journals start log) := by
  unfold cancelInterrupted
  split
  next => exact continues
  next =>
    split
    next => exact continues
    next => exact continues

/-- Closing the orchestrator writes nothing to the store. -/
theorem close_journals (continues : self.Continues start log) :
    close.Ends self (Journals start log) := by
  unfold close
  simp only [Code.ends_self_bind]
  split
  next => exact continues
  next => exact continues

/-- A pass over the overdue interactions begins by reading only. -/
theorem expireDueInteractions_journals {now : Option DateTime}
    (continues : self.Continues start log) :
    (expireDueInteractions environment now).Ends self (Journals start log) := by
  cases now <;> exact continues

/-- Every entry point commits a journal. -/
theorem handle_journals {call : ApiCall} (continues : self.Continues start log) :
    (handle environment call).Ends self (Journals start log) := by
  cases call with
  | createSession => exact createSession_journals continues
  | createInteractiveSession => exact createInteractiveSession_journals continues
  | bindInteractiveThread => exact bindInteractiveThread_journals continues
  | processServerRequest => exact processServerRequest_journals continues
  | consumeRequest => exact consumeRequest_journals continues
  | resolveInteraction => exact resolveInteraction_journals continues
  | resolveTerminalRequest => exact resolveTerminalRequest_journals continues
  | processNotification => exact processNotification_journals continues
  | consumeNotification => exact consuming_journals (processNotification_journals continues)
  | expireDueInteractions => exact expireDueInteractions_journals continues
  | cancelSession => exact cancelSession_journals continues
  | closeInteractiveSession => exact closeInteractiveSession_journals continues
  | monitorAppServer => exact monitorAppServer_journals continues
  | close => exact close_journals continues
  | attachLarkMessageId => exact continues.write (.of_eq rfl)
  | takeEvent => exact continues

/-- Every resumed handler commits a journal. -/
theorem resume_journals {frame : Frame} {reply : Reply} (continues : self.Continues start log) :
    (resume environment frame reply).Ends self (Journals start log) := by
  cases frame with
  | createSessionThread => exact threadStarted_journals continues
  | createSessionTurn => exact turnStarted_journals continues
  | requestError => exact requestErrorSent_journals continues
  | resolve => exact responseSent_journals continues
  | expireInterrupt => exact expireInterrupted_journals continues
  | expireRespond => exact expireResponded_journals continues
  | cancelInterrupt => exact cancelInterrupted_journals continues
  | consumerFailed => exact continues
  | close => exact appServerClosed_journals continues

/-- The notifications of a restart, one transaction each. -/
theorem emitInterrupted_commits {ids : List String}
    (stored : ∀ id ∈ ids, (self.store.tables.getSession id).isSome) :
    (emitInterrupted environment ids).Ends self fun after _ =>
      ∃ items : List NotificationOutboxItem,
        items.map NotificationOutboxItem.sessionId = ids.map some ∧
        (∀ item ∈ items, item.notificationType =
          OrchestratorEventType.sessionInterrupted.notification) ∧
        after.store = { self.store with outbox := self.store.outbox ++ items } ∧
        after.commits = self.commits ++ self.store.afterEach items := by
  induction ids generalizing self with
  | nil =>
      refine ⟨[], rfl, fun _ absent => absurd absent List.not_mem_nil, ?_, ?_⟩
      · rw [List.append_nil]
        rfl
      · exact (List.append_nil _).symm
  | cons id rest ih =>
      unfold emitInterrupted
      refine (emit_stored (stored id List.mem_cons_self)).bind ?_ fun _ _ ends => by cases ends.1
      intro middle _ ends
      obtain ⟨_, item, about, named, appended, logged⟩ := ends
      have known : ∀ other ∈ rest, (middle.store.tables.getSession other).isSome := by
        intro other listed
        rw [appended]
        exact stored other (List.mem_cons_of_mem _ listed)
      apply (ih known).mono
      intro after _ ends
      obtain ⟨items, abouts, types, store, commits⟩ := ends
      refine ⟨item :: items, ?_, ?_, ?_, ?_⟩
      · rw [List.map_cons, List.map_cons, about, abouts]
      · intro other listed
        rcases List.mem_cons.mp listed with rfl | later
        · exact named
        · exact types other later
      · rw [store, appended, List.append_assoc, List.singleton_append]
      · rw [commits, logged, List.append_assoc, List.singleton_append, appended]
        rfl

/-- A restart is one move: it ends every active session. -/
theorem start_moves (environment : Environment) (self : CodexOrchestrator) :
    (LarkBot.start environment).Ends self fun after _ => ∃ commits,
      after.commits = self.commits ++ commits ∧
        StoreMove self.store (self.store.tables.reconcileStartup
          (asUtc (environment.now self.clockReads))).1.sessionIds commits after.store := by
  unfold LarkBot.start
  simp only [ends_utcNow_bind, ends_store_bind]
  generalize asUtc (environment.now self.clockReads) = now
  have transacts := CodexTables.reconcileStartup_transacts self.store.tables now
  refine (emitInterrupted_commits ?_).mono fun after _ ends => ?_
  · intro id listed
    obtain ⟨_, session, member, same, _⟩ := transacts.ended id listed
    exact Option.isSome_of_eq_some (CodexTables.getSession_eq_some.mpr ⟨member, same⟩)
  · obtain ⟨items, abouts, types, store, commits⟩ := ends
    have moved := StoreMove.transact _ _ _ items transacts abouts types
    refine ⟨_, ?_, store ▸ moved⟩
    rw [commits]
    exact List.append_assoc _ _ _

/-- Whatever an event runs commits a journal. -/
theorem Runtime.runs_journals {runtime base : Runtime} {event : Event} {task : Nat}
    {code : Code Progress} (runs : runtime.Runs environment event task code base) :
    code.Ends runtime.orchestrator
      (Journals runtime.orchestrator.store runtime.orchestrator.commits) := by
  cases runs with
  | call call => exact handle_journals (.refl _)
  | reply task reply suspended => exact resume_journals (.refl _)
  | proceed task pass => exact expireNext_journals (.refl _)

end Segments

end LarkBot
