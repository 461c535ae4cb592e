import LarkBot.Codex.Store.Transactions

/-! # Operations are all or nothing

An operation that reports failure leaves the five tables as they were: what an update
missed it did not change, and an exception rolls the connection back
(`LarkBot.failed_operation_leaves_tables`). `update_session` alone commits its update on one
connection and reads the row back on another; when the reading raises, the update stays.
-/

namespace LarkBot

open Foundation

namespace Database

variable {database : Database}

/-- An update that selects nothing changes nothing. -/
theorem updateSessions_eq_self {scope : SessionRow → Bool} {change : SessionRow → SessionRow}
    (keepsId : ∀ row, (change row).id = row.id)
    (none : ∀ row ∈ database.sessions, scope row = false) :
    database.updateSessions scope change keepsId = database := by
  have rows : updateWhere scope change database.sessions = database.sessions :=
    updateWhere_eq_self none
  cases database
  simp only [updateSessions, mk.injEq, and_true]
  exact rows

/-- An update that selects no row leaves the tables. -/
theorem updateInteractions_eq_self {scope : InteractionRow → Bool}
    {change : InteractionRow → InteractionRow} (keeps : KeepsKeys change)
    (none : ∀ row ∈ database.interactions, scope row = false) :
    database.updateInteractions scope change keeps = database := by
  have rows : updateWhere scope change database.interactions = database.interactions :=
    updateWhere_eq_self none
  cases database
  simp only [updateInteractions, mk.injEq, and_true, true_and]
  exact rows

end Database

namespace StoreProgram

open Program

variable {Result Value : Type} {failed : Result → Prop} {body : StoreProgram Result}

/-- A connection whose body changes nothing where it fails is all or nothing. -/
theorem connection_allOrNothing (refuses : Refuses failed body) :
    AllOrNothing failed (connection body) :=
  allOrNothing_transaction (.of_reads (reads_select _) fun _ => refuses)

/-- A connection that returns ran its body on the tables. -/
theorem connection_ok {setting after : Setting Database PyError} {result : Result}
    (ran : (connection body).outcome setting = (.ok result, after)) :
    ∃ opened : Setting Database PyError, opened.data = setting.data ∧
      body.outcome opened = (.ok result, after) := by
  obtain ⟨_, opened, opening, inner⟩ := bind_ok (transaction_ok ran)
  exact ⟨opened, (reads_select _).ok opening, inner⟩

/-- A connection whose body only reads leaves the tables. -/
theorem connection_reads (reads : Reads body) : Reads (connection body) := by
  refine reads_of_cases ?_ fun _ _ _ raised => transaction_error raised
  intro setting result after ran
  obtain ⟨opened, same, inner⟩ := connection_ok ran
  exact (reads.ok inner).trans same

/-- An update by id that did not rewrite one row changed nothing. -/
theorem updateSessions_refuses {scope : SessionRow → Bool} {change : SessionRow → SessionRow}
    {keepsId : ∀ row, (change row).id = row.id} (wanted : String)
    (byId : ∀ row, scope row → row.id = wanted) :
    Refuses (· ≠ 1) (updateSessions scope change keepsId) := by
  apply refuses_statement
  intro database missed
  exact Database.updateSessions_eq_self keepsId (unselected_of_rowcount database.sessionIds wanted
    scope (fun row chosen => ⟨rfl, byId row chosen⟩) missed)

/-- An update by id that does not count one row has changed none. -/
theorem updateInteractions_refuses {scope : InteractionRow → Bool}
    {change : InteractionRow → InteractionRow} {keeps : Database.KeepsKeys change} (wanted : String)
    (byId : ∀ row, scope row → row.id = wanted) :
    Refuses (· ≠ 1) (updateInteractions scope change keeps) := by
  apply refuses_statement
  intro database missed
  exact Database.updateInteractions_eq_self keeps (unselected_of_rowcount database.interactionIds
    wanted scope (fun row chosen => ⟨rfl, byId row chosen⟩) missed)

/-- An update of the outbox by id that does not count one row has changed none. -/
theorem updateOutbox_refuses {scope : OutboxRow → Bool} {change : OutboxRow → OutboxRow}
    {keepsId : ∀ row, (change row).id = row.id} (wanted : Nat)
    (byId : ∀ row, scope row → row.id = wanted) :
    Refuses (· ≠ 1) (updateOutbox scope change keepsId) := by
  apply refuses_statement
  intro database missed
  have same : database.outbox.update scope change keepsId = database.outbox :=
    Sequenced.update_eq_self (unselected_of_rowcount database.outbox.ids wanted scope
      (fun row chosen => ⟨rfl, byId row chosen⟩) missed)
  rw [same]

/-- The first conjunct of a condition selects by id. -/
theorem byId_of_and {Row Key : Type} [BEq Key] [LawfulBEq Key] {key : Row → Key} {wanted : Key}
    {condition : Row → Bool} : ∀ row, (key row == wanted && condition row) → key row = wanted :=
  fun _ chosen => beq_iff_eq.mp ((Bool.and_eq_true _ _).mp chosen).1

/-- An update on a connection of its own reports whether it rewrote its row. -/
theorem counted_allOrNothing {update : StoreProgram Nat} (refuses : Refuses (· ≠ 1) update) :
    AllOrNothing (· = false) (connection update >>= fun count => pure (count == 1)) := by
  refine AllOrNothing.map (AllOrNothing.mono (connection_allOrNothing refuses) ?_)
  intro count missed one
  rw [one] at missed
  cases missed

/-- Converting a value reads no table. -/
theorem reads_convert (value : Option Value) (message : String) : Reads
    (convert value message) := by
  unfold convert
  split
  · exact reads_pure _
  · exact reads_throw _

/-- Validating an interaction reads no table. -/
theorem validateInteraction_reads (interaction : PendingInteraction) :
    Reads (validateInteraction interaction) := by
  unfold validateInteraction
  split
  · exact reads_pure _
  · exact reads_throw _

/-- Checking a decision against its kind reads no table. -/
theorem normalizedDecision_reads (kindValue decision : String) :
    Reads (normalizedDecision kindValue decision) := by
  unfold normalizedDecision
  apply (reads_convert _ _).bind
  intro kind
  split
  · exact reads_pure _
  · exact reads_throw _

section Operations

/-- Looking a session up only reads. -/
theorem getSession_reads (sessionId : String) : Reads (getSession sessionId) := by
  unfold getSession
  apply (connection_reads (reads_select _)).bind
  intro row
  split
  · exact reads_pure _
  · split
    · exact reads_pure _
    · exact reads_throw _

/-- `create_session` inserts its row or leaves the tables. -/
theorem createSession_allOrNothing (session : CodexSession) :
    AllOrNothing (fun _ => False) (createSession session) :=
  connection_allOrNothing fun _ _ _ _ => False.elim

/-- `update_session_if_status` leaves the tables when it reports no row. -/
theorem updateSessionIfStatus_allOrNothing (sessionId : String) (expectedStatuses : List String)
    (status : String) (assignments : SessionAssignments) (updatedAt : Instant) :
    AllOrNothing (· = false)
      (updateSessionIfStatus sessionId expectedStatuses status assignments updatedAt) := by
  unfold updateSessionIfStatus
  refine .bind (reads_mapM (fun value => reads_convert _ _) expectedStatuses) fun expected => ?_
  split
  · exact (reads_pure _).allOrNothing
  · refine .bind (reads_convert _ _) fun status => ?_
    exact counted_allOrNothing (updateSessions_refuses sessionId byId_of_and)

/-- `create_interaction` inserts its row or leaves the tables. -/
theorem createInteraction_allOrNothing (interaction : PendingInteraction) :
    AllOrNothing (fun _ => False) (createInteraction interaction) := by
  refine .bind (validateInteraction_reads interaction) fun _ => ?_
  exact connection_allOrNothing fun _ _ _ _ => False.elim

/-- `create_interaction_and_mark_waiting` leaves the tables when it refuses the
interaction. -/
theorem createInteractionAndMarkWaiting_allOrNothing (interaction : PendingInteraction)
    (waitingStatus : String) (updatedAt : Instant) :
    AllOrNothing (· = false)
      (createInteractionAndMarkWaiting interaction waitingStatus updatedAt) := by
  unfold createInteractionAndMarkWaiting
  refine .bind (reads_convert _ _) fun status => ?_
  split
  · exact (reads_throw _).allOrNothing
  · refine .bind (validateInteraction_reads interaction) fun _ => ?_
    refine .tryCatch (connection_allOrNothing ?_) fun error => ?_
    · refine .bind (updateSessions_refuses interaction.sessionId byId_of_and) ?_ ?_
      · intro count missed
        rw [if_pos missed]
        exact reads_pure _
      · intro count found
        rw [if_neg found]
        exact .bind fun _ => accepts_pure (fun impossible => by cases impossible)
    · split
      · exact (reads_pure _).allOrNothing
      · exact (reads_throw _).allOrNothing

/-- `attach_lark_message_id` leaves the tables when it reports no row. -/
theorem attachLarkMessageId_allOrNothing (interactionId messageId : String) :
    AllOrNothing (· = false) (attachLarkMessageId interactionId messageId) :=
  counted_allOrNothing (updateInteractions_refuses interactionId byId_of_and)

/-- Settling a row that is not counted once has settled none. -/
theorem settleRow_refuses (interactionId : String) (status : InteractionStatus)
    (decision actorId : Option String) (resolvedAt : Instant) (settled : status ≠ .pending) :
    Refuses (· ≠ 1) (settleRow interactionId status decision actorId resolvedAt settled) :=
  updateInteractions_refuses interactionId byId_of_and

/-- `resolve_interaction` leaves the tables when it reports that it lost. -/
theorem resolveInteraction_allOrNothing (interactionId decision actorId : String)
    (resolvedAt : Instant) :
    AllOrNothing (· = false) (resolveInteraction interactionId decision actorId resolvedAt) := by
  refine connection_allOrNothing (.of_reads (reads_select _) fun row => ?_)
  split
  · exact (reads_pure _).refuses
  · refine .of_reads (normalizedDecision_reads _ _) fun normalized => ?_
    refine .bind (settleRow_refuses _ _ _ _ _ _) (fun count _ => reads_pure _) ?_
    intro count found
    have one : count = 1 := not_not.mp found
    rw [one]
    exact accepts_pure (fun impossible => by cases impossible)

/-- What a claimed row asks for follows only after the claim. -/
theorem claimed_refuses {claim : StoreProgram Nat} (claims : Refuses (· ≠ 1) claim)
    {Rest : Type} (rest : StoreProgram Rest) :
    Refuses (· = false) (claim >>= fun count =>
      if count ≠ 1 then pure false else rest >>= fun _ => pure true) := by
  refine .bind claims ?_ ?_
  · intro count missed
    rw [if_pos missed]
    exact reads_pure _
  · intro count found
    rw [if_neg found]
    exact .bind fun _ => accepts_pure (fun impossible => by cases impossible)

/-- `resolve_interaction_and_refresh_session` leaves the tables when it reports that it
lost. -/
theorem resolveInteractionAndRefreshSession_allOrNothing (interactionId decision actorId : String)
    (updatedAt : Instant) (status : String) :
    AllOrNothing (· = false)
      (resolveInteractionAndRefreshSession interactionId decision actorId updatedAt status) := by
  unfold resolveInteractionAndRefreshSession
  refine .bind (reads_convert _ _) fun status => ?_
  split
  · refine connection_allOrNothing (.of_reads (reads_select _) fun row => ?_)
    split
    · exact (reads_pure _).refuses
    · refine .of_reads (normalizedDecision_reads _ _) fun normalized => ?_
      exact claimed_refuses (settleRow_refuses _ _ _ _ _ _) _
  · exact (reads_throw _).allOrNothing

/-- `cancel_interaction_and_refresh_session` leaves the tables when it reports that it
lost. -/
theorem cancelInteractionAndRefreshSession_allOrNothing (interactionId : String)
    (updatedAt : Instant) :
    AllOrNothing (· = false) (cancelInteractionAndRefreshSession interactionId updatedAt) := by
  refine connection_allOrNothing (.of_reads (reads_select _) fun row => ?_)
  split
  · exact (reads_pure _).refuses
  · exact claimed_refuses (settleRow_refuses _ _ _ _ _ _) _

/-- A session that was not found is left alone, with what it waits for. -/
theorem ended_refuses {scope : SessionRow → Bool} {change : SessionRow → SessionRow}
    {keepsId : ∀ row, (change row).id = row.id} (sessionId : String)
    (byId : ∀ row, scope row → row.id = sessionId) (settles : StoreProgram Nat) :
    Refuses (· = none) (updateSessions scope change keepsId >>= fun count =>
      if count ≠ 1 then pure none
      else selectPendingIds sessionId >>= fun ids => settles >>= fun _ => pure (some ids)) := by
  refine .bind (updateSessions_refuses sessionId byId) ?_ ?_
  · intro count missed
    rw [if_pos missed]
    exact reads_pure _
  · intro count found
    rw [if_neg found]
    exact .bind fun ids => .bind fun _ => accepts_pure (fun impossible => by cases impossible)

/-- `claim_session_terminal` leaves the tables when it returns no ids. -/
theorem claimSessionTerminal_allOrNothing (sessionId terminalStatus summary pendingStatus : String)
    (updatedAt : Instant) :
    AllOrNothing (· = none)
      (claimSessionTerminal sessionId terminalStatus summary pendingStatus updatedAt) := by
  unfold claimSessionTerminal
  refine .bind (reads_convert _ _) fun terminalStatus => ?_
  split
  · refine .bind (reads_convert _ _) fun pendingStatus => ?_
    split
    · exact connection_allOrNothing (ended_refuses sessionId byId_of_and _)
    · exact (reads_throw _).allOrNothing
  · exact (reads_throw _).allOrNothing

/-- `finish_interactive_turn` leaves the tables when it returns no ids. -/
theorem finishInteractiveTurn_allOrNothing (sessionId turnId summary : String)
    (updatedAt : Instant) :
    AllOrNothing (· = none) (finishInteractiveTurn sessionId turnId summary updatedAt) := by
  unfold finishInteractiveTurn
  split
  · exact (reads_throw _).allOrNothing
  · exact connection_allOrNothing (ended_refuses sessionId byId_of_and _)

/-- `expire_interaction` leaves the tables when it reports no row. -/
theorem expireInteraction_allOrNothing (interactionId : String) (resolvedAt : Instant) :
    AllOrNothing (· = false) (expireInteraction interactionId resolvedAt) :=
  counted_allOrNothing (settleRow_refuses _ _ _ _ _ _)

/-- `cancel_pending_interactions` closes all the rows or none. -/
theorem cancelPendingInteractions_allOrNothing (sessionId status : String) (resolvedAt : Instant) :
    AllOrNothing (fun _ => False) (cancelPendingInteractions sessionId status resolvedAt) := by
  unfold cancelPendingInteractions
  refine .bind (reads_convert _ _) fun status => ?_
  split
  · exact connection_allOrNothing fun _ _ _ _ => False.elim
  · exact (reads_throw _).allOrNothing

/-- `record_event_once` leaves the tables when the event was recorded before. -/
theorem recordEventOnce_allOrNothing (eventId : String) (receivedAt : Instant) :
    AllOrNothing (· = false) (recordEventOnce eventId receivedAt) := by
  refine counted_allOrNothing (refuses_statement fun database missed => ?_)
  unfold Database.insertEventOrIgnore at missed ⊢
  split at missed
  · exact absurd rfl missed
  next known =>
    rw [dif_neg known]

/-- `enqueue_outbox` inserts its row or leaves the tables. -/
theorem enqueueOutbox_allOrNothing (entry : SQLiteCodexStore.OutboxEntry) :
    AllOrNothing (fun _ => False) (enqueueOutbox entry) :=
  connection_allOrNothing fun _ _ _ _ => False.elim

/-- `mark_outbox_sent` leaves the tables when it reports no row. -/
theorem markOutboxSent_allOrNothing (outboxId : Nat) (sentAt : Instant) :
    AllOrNothing (· = false) (markOutboxSent outboxId sentAt) :=
  counted_allOrNothing (updateOutbox_refuses outboxId byId_of_and)

/-- `record_outbox_failure` leaves the tables when it reports no row. -/
theorem recordOutboxFailure_allOrNothing (outboxId : Nat) (error : String)
    (nextAttemptAt : Instant) :
    AllOrNothing (· = false) (recordOutboxFailure outboxId error nextAttemptAt) :=
  counted_allOrNothing (updateOutbox_refuses outboxId byId_of_and)

/-- `record_audit` inserts its row or leaves the tables. -/
theorem recordAudit_allOrNothing (eventType detailSummary : String)
    (sessionId interactionId actorId : Option String) (createdAt : Instant) :
    AllOrNothing (fun _ => False)
      (recordAudit eventType detailSummary sessionId interactionId actorId createdAt) :=
  connection_allOrNothing fun _ _ _ _ => False.elim

/-- `reconcile_startup` ends every session that it finds active, or leaves the tables. -/
theorem reconcileStartup_allOrNothing (now : Instant) :
    AllOrNothing (fun _ => False) (reconcileStartup now) :=
  connection_allOrNothing fun _ _ _ _ => False.elim

/-- Assigning to the row of a session leaves its id. -/
theorem SessionAssignments.apply_id (assignments : SessionAssignments) (updatedAt : Instant)
    (row : SessionRow) : (assignments.apply updatedAt row).id = row.id := rfl

/-- The row that `update_session` rewrites. -/
def updatedRow (sessionId : String) (assignments : SessionAssignments) (updatedAt : Instant)
    (database : Database) : Database :=
  database.updateSessions (fun row => row.id == sessionId) (assignments.apply updatedAt)
    (assignments.apply_id updatedAt)

/-- A session that is not found afterwards was not there to be updated. -/
theorem updatedRow_of_absent {sessionId : String} {assignments : SessionAssignments}
    {updatedAt : Instant} {database : Database}
    (absent : (updatedRow sessionId assignments updatedAt database).sessions.find?
      (fun row => row.id == sessionId) = none) :
    updatedRow sessionId assignments updatedAt database = database := by
  apply Database.updateSessions_eq_self _
  intro row member
  have rewritten : (if row.id == sessionId then assignments.apply updatedAt row else row) ∈
      (updatedRow sessionId assignments updatedAt database).sessions :=
    mem_updateWhere.mpr ⟨row, member, rfl⟩
  have missing := List.find?_eq_none.mp absent _ rewritten
  by_cases chosen : row.id == sessionId
  · rw [if_pos chosen] at missing
    exact absurd chosen missing
  · exact Bool.not_eq_true _ ▸ chosen

/-- Reading a session back gives none only if it is not stored. -/
theorem absent_of_getSession {sessionId : String} {setting after : Setting Database PyError}
    (ran : (getSession sessionId).outcome setting = (.ok none, after)) :
    setting.data.sessions.find? (fun row => row.id == sessionId) = none := by
  obtain ⟨row, between, read, ended⟩ := bind_ok ran
  obtain ⟨opened, same, selected⟩ := connection_ok read
  have found := congrArg Prod.fst (Except.ok.inj (statement_ok selected))
  rw [same] at found
  cases row with
  | none => exact found
  | some row =>
      dsimp only at ended
      split at ended <;> cases ended

/-- `update_session` leaves the tables alone when it finds no session; when it raises, its
update may have been committed. -/
theorem updateSession_leaves (sessionId : String) (assignments : SessionAssignments)
    (updatedAt : Instant) {setting after : Setting Database PyError} :
    ((updateSession sessionId assignments updatedAt).outcome setting = (.ok none, after) →
      after.data = setting.data) ∧
    ∀ error, (updateSession sessionId assignments updatedAt).outcome setting =
      (.error error, after) →
      after.data = setting.data ∨
        after.data = updatedRow sessionId assignments updatedAt setting.data := by
  unfold updateSession
  split
  · refine ⟨fun ran => (getSession_reads sessionId).ok ran, fun error ran => Or.inl ?_⟩
    exact (getSession_reads sessionId).error ran
  · have updated {count : Nat} {between : Setting Database PyError}
        (ran : (connection (updateSessions (fun row => row.id == sessionId)
          (assignments.apply updatedAt) fun _ => rfl)).outcome setting = (.ok count, between)) :
        between.data = updatedRow sessionId assignments updatedAt setting.data := by
      obtain ⟨opened, same, ran⟩ := connection_ok ran
      have changed := congrArg Prod.snd (Except.ok.inj (statement_ok ran))
      rw [← same]
      exact changed.symm
    constructor
    · intro ran
      obtain ⟨count, between, began, ended⟩ := bind_ok ran
      have absent := absent_of_getSession ended
      rw [updated began] at absent
      rw [(getSession_reads sessionId).ok ended, updated began, updatedRow_of_absent absent]
    · intro error ran
      rcases bind_error ran with raised | ⟨count, between, began, ended⟩
      · exact Or.inl (transaction_error raised)
      · right
        rw [(getSession_reads sessionId).error ended, updated began]

end Operations

end StoreProgram

/-- A call of an operation of the store. -/
inductive StoreOperation where
  | createSession (session : CodexSession)
  | updateSession (sessionId : String) (assignments : StoreProgram.SessionAssignments)
      (updatedAt : Instant)
  | updateSessionIfStatus (sessionId : String) (expectedStatuses : List String) (status : String)
      (assignments : StoreProgram.SessionAssignments) (updatedAt : Instant)
  | createInteraction (interaction : PendingInteraction)
  | createInteractionAndMarkWaiting (interaction : PendingInteraction) (waitingStatus : String)
      (updatedAt : Instant)
  | attachLarkMessageId (interactionId messageId : String)
  | resolveInteraction (interactionId decision actorId : String) (resolvedAt : Instant)
  | resolveInteractionAndRefreshSession (interactionId decision actorId : String)
      (updatedAt : Instant) (status : String)
  | cancelInteractionAndRefreshSession (interactionId : String) (updatedAt : Instant)
  | claimSessionTerminal (sessionId terminalStatus summary pendingStatus : String)
      (updatedAt : Instant)
  | finishInteractiveTurn (sessionId turnId summary : String) (updatedAt : Instant)
  | expireInteraction (interactionId : String) (resolvedAt : Instant)
  | cancelPendingInteractions (sessionId status : String) (resolvedAt : Instant)
  | recordEventOnce (eventId : String) (receivedAt : Instant)
  | enqueueOutbox (entry : SQLiteCodexStore.OutboxEntry)
  | markOutboxSent (outboxId : Nat) (sentAt : Instant)
  | recordOutboxFailure (outboxId : Nat) (error : String) (nextAttemptAt : Instant)
  | recordAudit (eventType detailSummary : String)
      (sessionId interactionId actorId : Option String) (createdAt : Instant)
  | reconcileStartup (now : Instant)
  /-- An operation that selects rows and maps them. -/
  | query (mapped : Database → Except PyError Unit)

/-- What a call of the store returns. -/
inductive StoreAnswer where
  | nothing
  | succeeds (succeeded : Bool)
  | session (session : Option CodexSession)
  | interactionIds (ids : Option (List String))
  | rowId (id : Nat)
  | reconciled (result : CodexTables.StartupReconciliationResult)

/-- The caller takes the answer for a success. -/
def StoreAnswer.succeeded : StoreAnswer → Bool
  | .nothing | .rowId _ | .reconciled _ => true
  | .succeeds reported => reported
  | .session found => found.isSome
  | .interactionIds found => found.isSome

namespace StoreOperation

open StoreProgram

/-- The program, with its result as an answer. -/
def answering {Result : Type} (answer : Result → StoreAnswer) (program : StoreProgram Result) :
    StoreProgram StoreAnswer := do
  let result ← program
  pure (answer result)

/-- Run the operation: what it returns, unless it raises. -/
def run : StoreOperation → StoreProgram StoreAnswer
  | .createSession session => answering (fun _ => .nothing) (StoreProgram.createSession session)
  | .updateSession sessionId assignments updatedAt =>
      answering .session (StoreProgram.updateSession sessionId assignments updatedAt)
  | .updateSessionIfStatus sessionId expectedStatuses status assignments updatedAt =>
      answering .succeeds
        (StoreProgram.updateSessionIfStatus sessionId expectedStatuses status assignments updatedAt)
  | .createInteraction interaction =>
      answering (fun _ => .nothing) (StoreProgram.createInteraction interaction)
  | .createInteractionAndMarkWaiting interaction waitingStatus updatedAt =>
      answering .succeeds
        (StoreProgram.createInteractionAndMarkWaiting interaction waitingStatus updatedAt)
  | .attachLarkMessageId interactionId messageId =>
      answering .succeeds (StoreProgram.attachLarkMessageId interactionId messageId)
  | .resolveInteraction interactionId decision actorId resolvedAt =>
      answering .succeeds (StoreProgram.resolveInteraction interactionId decision actorId
        resolvedAt)
  | .resolveInteractionAndRefreshSession interactionId decision actorId updatedAt status =>
      answering .succeeds (StoreProgram.resolveInteractionAndRefreshSession interactionId decision
        actorId updatedAt status)
  | .cancelInteractionAndRefreshSession interactionId updatedAt =>
      answering .succeeds (StoreProgram.cancelInteractionAndRefreshSession interactionId updatedAt)
  | .claimSessionTerminal sessionId terminalStatus summary pendingStatus updatedAt =>
      answering .interactionIds (StoreProgram.claimSessionTerminal sessionId terminalStatus summary
        pendingStatus updatedAt)
  | .finishInteractiveTurn sessionId turnId summary updatedAt =>
      answering .interactionIds
        (StoreProgram.finishInteractiveTurn sessionId turnId summary updatedAt)
  | .expireInteraction interactionId resolvedAt =>
      answering .succeeds (StoreProgram.expireInteraction interactionId resolvedAt)
  | .cancelPendingInteractions sessionId status resolvedAt =>
      answering (fun ids => .interactionIds (some ids))
        (StoreProgram.cancelPendingInteractions sessionId status resolvedAt)
  | .recordEventOnce eventId receivedAt =>
      answering .succeeds (StoreProgram.recordEventOnce eventId receivedAt)
  | .enqueueOutbox entry => answering .rowId (StoreProgram.enqueueOutbox entry)
  | .markOutboxSent outboxId sentAt =>
      answering .succeeds (StoreProgram.markOutboxSent outboxId sentAt)
  | .recordOutboxFailure outboxId error nextAttemptAt =>
      answering .succeeds (StoreProgram.recordOutboxFailure outboxId error nextAttemptAt)
  | .recordAudit eventType detailSummary sessionId interactionId actorId createdAt =>
      answering .rowId (StoreProgram.recordAudit eventType detailSummary sessionId interactionId
        actorId createdAt)
  | .reconcileStartup now => answering .reconciled (StoreProgram.reconcileStartup now)
  | .query mapped => do
      match ← connection (Program.select mapped) with
      | .ok _ => pure .nothing
      | .error error => throw error

/-- Run the operation: whether it reports success, unless it raises. -/
def perform (operation : StoreOperation) : StoreProgram Bool := do
  let answer ← operation.run
  pure answer.succeeded

/-- The operation reported failure. -/
def Failed : Except PyError Bool → Prop
  | .ok succeeded => succeeded = false
  | .error _ => True

/-- Tables that `update_session` leaves when it raises after its update was committed. -/
def CommittedUpdate (operation : StoreOperation) (ended : Except PyError Bool)
    (before after : Database) : Prop :=
  ∃ sessionId assignments updatedAt error,
    operation = .updateSession sessionId assignments updatedAt ∧ ended = .error error ∧
      after = updatedRow sessionId assignments updatedAt before

/-- The answer is no success. -/
def Failing (answer : StoreAnswer) : Prop := answer.succeeded = false

/-- A program whose results are no failures makes answers that are none. -/
theorem answering_allOrNothing {Result : Type} {program : StoreProgram Result}
    {failed : Result → Prop} {answer : Result → StoreAnswer}
    (atomic : Program.AllOrNothing failed program)
    (fails : ∀ result, (answer result).succeeded = false → failed result) :
    Program.AllOrNothing Failing (answering answer program) :=
  Program.AllOrNothing.map (atomic.mono fails)

/-- A missing result is a failure. -/
theorem none_of_isSome {Result : Type} (found : Option Result) (missing : found.isSome = false) :
    found = none :=
  Option.not_isSome_iff_eq_none.mp (Bool.not_eq_true _ ▸ missing)

/-- Every operation but `update_session` is all or nothing. -/
theorem allOrNothing (operation : StoreOperation)
    (other : ∀ sessionId assignments updatedAt,
      operation ≠ .updateSession sessionId assignments updatedAt) :
    Program.AllOrNothing Failing operation.run := by
  have done {Result : Type} {answer : Result → StoreAnswer} {program : StoreProgram Result}
      (atomic : Program.AllOrNothing (fun _ => False) program)
      (succeeds : ∀ result, (answer result).succeeded = true) :
      Program.AllOrNothing Failing (answering answer program) := by
    apply answering_allOrNothing atomic
    intro result failed
    rw [succeeds result] at failed
    cases failed
  have told {program : StoreProgram Bool} (atomic : Program.AllOrNothing (· = false) program) :
      Program.AllOrNothing Failing (answering .succeeds program) :=
    answering_allOrNothing atomic fun _ failed => failed
  cases operation with
  | updateSession sessionId assignments updatedAt => exact absurd rfl (other _ _ _)
  | createSession session => exact done (createSession_allOrNothing session) fun _ => rfl
  | updateSessionIfStatus sessionId expectedStatuses status assignments updatedAt =>
      exact told (updateSessionIfStatus_allOrNothing _ _ _ _ _)
  | createInteraction interaction =>
      exact done (createInteraction_allOrNothing interaction) fun _ => rfl
  | createInteractionAndMarkWaiting interaction waitingStatus updatedAt =>
      exact told (createInteractionAndMarkWaiting_allOrNothing _ _ _)
  | attachLarkMessageId interactionId messageId =>
      exact told (attachLarkMessageId_allOrNothing _ _)
  | resolveInteraction interactionId decision actorId resolvedAt =>
      exact told (resolveInteraction_allOrNothing _ _ _ _)
  | resolveInteractionAndRefreshSession interactionId decision actorId updatedAt status =>
      exact told (resolveInteractionAndRefreshSession_allOrNothing _ _ _ _ _)
  | cancelInteractionAndRefreshSession interactionId updatedAt =>
      exact told (cancelInteractionAndRefreshSession_allOrNothing _ _)
  | claimSessionTerminal sessionId terminalStatus summary pendingStatus updatedAt =>
      exact answering_allOrNothing (claimSessionTerminal_allOrNothing _ _ _ _ _) none_of_isSome
  | finishInteractiveTurn sessionId turnId summary updatedAt =>
      exact answering_allOrNothing (finishInteractiveTurn_allOrNothing _ _ _ _) none_of_isSome
  | expireInteraction interactionId resolvedAt => exact told (expireInteraction_allOrNothing _ _)
  | cancelPendingInteractions sessionId status resolvedAt =>
      exact done (cancelPendingInteractions_allOrNothing _ _ _) fun _ => rfl
  | recordEventOnce eventId receivedAt => exact told (recordEventOnce_allOrNothing _ _)
  | enqueueOutbox entry => exact done (enqueueOutbox_allOrNothing entry) fun _ => rfl
  | markOutboxSent outboxId sentAt => exact told (markOutboxSent_allOrNothing _ _)
  | recordOutboxFailure outboxId error nextAttemptAt =>
      exact told (recordOutboxFailure_allOrNothing _ _ _)
  | recordAudit eventType detailSummary sessionId interactionId actorId createdAt =>
      exact done (recordAudit_allOrNothing _ _ _ _ _ _) fun _ => rfl
  | reconcileStartup now => exact done (reconcileStartup_allOrNothing now) fun _ => rfl
  | query mapped =>
      apply Program.Reads.allOrNothing
      apply (connection_reads (Program.reads_select _)).bind
      intro rows
      split
      · exact Program.reads_pure _
      · exact Program.reads_throw _

end StoreOperation

/-- An operation that reports failure leaves the tables as they were, unless it is an
`update_session` that raised while it read the row back. -/
theorem failed_operation_leaves_tables (operation : StoreOperation)
    (setting after : Setting Database PyError) (ended : Except PyError Bool)
    (ran : operation.perform.outcome setting = (ended, after))
    (failed : StoreOperation.Failed ended) :
    after.data = setting.data ∨ operation.CommittedUpdate ended setting.data after.data := by
  by_cases updates : ∃ sessionId assignments updatedAt,
      operation = .updateSession sessionId assignments updatedAt
  · obtain ⟨sessionId, assignments, updatedAt, rfl⟩ := updates
    cases ended with
    | ok succeeded =>
        obtain ⟨answer, answered, performed, ended⟩ := Program.bind_ok ran
        cases ended
        obtain ⟨session, between, updated, ended⟩ := Program.bind_ok performed
        cases ended
        cases session with
        | some session => cases failed
        | none =>
            left
            exact (StoreProgram.updateSession_leaves sessionId assignments updatedAt).1 updated
    | error error =>
        rcases Program.bind_error ran with performed | ⟨answer, answered, _, ended⟩
        swap
        · cases ended
        rcases Program.bind_error performed with raised | ⟨session, between, _, ended⟩
        · refine ((StoreProgram.updateSession_leaves sessionId assignments updatedAt).2 error
            raised).imp_right fun updated => ?_
          exact ⟨sessionId, assignments, updatedAt, error, rfl, rfl, updated⟩
        · cases ended
  · have answers := operation.allOrNothing fun sessionId assignments updatedAt same =>
      updates ⟨sessionId, assignments, updatedAt, same⟩
    have atomic : Program.AllOrNothing (· = false) operation.perform := by
      unfold StoreOperation.perform
      exact Program.AllOrNothing.map answers
    left
    cases ended with
    | ok succeeded => exact atomic.refuses setting succeeded after ran failed
    | error error => exact atomic.raises setting error after ran

section Scenarios

/-- A session row with this status. -/
def sessionRow (status : String) : SessionRow where
  id := "s"
  threadId := none
  turnId := none
  name := "s"
  cwd := "/"
  model := none
  sandbox := "workspace-write"
  status
  summary := ""
  createdAt := .instant 0
  updatedAt := .instant 0

/-- A request for input of that session. -/
def inputRequest : PendingInteraction where
  id := "i"
  sessionId := "s"
  requestId := "1"
  kind := .userInput
  status := .pending
  larkMessageId := none
  payloadSummary := ""
  requestedAt := 0
  resolvedAt := none
  expiresAt := 1
  actorId := none
  decision := none

/-- One session, and one request of it. -/
def storedRows (status : String) : Database :=
  { Database.empty with
    sessions := [sessionRow status]
    interactions := [.ofInteraction inputRequest]
    sessionIds := List.pairwise_singleton _ _
    interactionIds := List.pairwise_singleton _ _
    pendingRequests := List.pairwise_singleton _ _ }

/-- The session was marked as waiting before the request turned out to be stored. -/
theorem waiting_mark_undone :
    let operation := StoreOperation.createInteractionAndMarkWaiting inputRequest
      "waiting_for_input" 5
    let ended := operation.perform.outcome ⟨storedRows "running", []⟩
    ended.1 = .ok false ∧ (ended.2.data = storedRows "running" ∨
      operation.CommittedUpdate ended.1 (storedRows "running") ended.2.data) := by
  intro operation ended
  have refused : ended.1 = .ok false := by decide
  exact ⟨refused, failed_operation_leaves_tables operation ⟨storedRows "running", []⟩ ended.2
    ended.1
    rfl (refused ▸ rfl)⟩

/-- A session whose status this version does not know is updated, and then cannot be read back. -/
theorem unreadable_session_updated :
    ¬ ∀ (operation : StoreOperation) (setting after : Setting Database PyError)
      (ended : Except PyError Bool), operation.perform.outcome setting = (ended, after) →
        StoreOperation.Failed ended → after.data = setting.data := by
  intro always
  let operation := StoreOperation.updateSession "s" ⟨none, some (some "t"), none, none⟩ 5
  let ended := operation.perform.outcome ⟨storedRows "archived", []⟩
  have raised : ended.1 = .error ⟨.other "ValidationError", "status"⟩ := by decide
  have same := always operation ⟨storedRows "archived", []⟩ ended.2 ended.1 rfl
    (raised ▸ trivial)
  have bound : ended.2.data.sessions.map SessionRow.threadId = [some "t"] := by decide
  rw [same] at bound
  exact absurd bound (by decide)

end Scenarios

end LarkBot
