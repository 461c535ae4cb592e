import LarkBot.Codex.Store.Atomicity

/-! # What every operation keeps

No operation of the store deletes a recorded event or an outbox row, and only
`record_event_once` records an event (`LarkBot.StoreOperation.keeps`). This holds whatever the
statements of the operation raise.
-/

namespace LarkBot

open Foundation Program

/-- An event with this id is recorded. -/
def Database.Recorded (database : Database) (eventId : String) : Prop :=
  ∃ row ∈ database.events, row.eventId = eventId

instance (database : Database) (eventId : String) : Decidable (database.Recorded eventId) :=
  inferInstanceAs (Decidable (∃ row ∈ database.events, row.eventId = eventId))

/-- No event with one of these ids is recorded, and no event or outbox row is deleted. -/
structure Database.Keeps (ids : String → Prop) (before after : Database) : Prop where
  unrecorded : ∀ eventId, ids eventId → after.Recorded eventId → before.Recorded eventId
  recorded : ∀ eventId, before.Recorded eventId → after.Recorded eventId
  outbox : ∀ row ∈ before.outbox.rows, ∃ kept ∈ after.outbox.rows, kept.id = row.id

namespace Database.Keeps

variable {ids : String → Prop} {before after : Database}

/-- A change that touches neither the events nor the outbox keeps them for every set of
ids. -/
theorem of_eq (events : after.events = before.events) (outbox : after.outbox = before.outbox) :
    Database.Keeps ids before after := by
  refine ⟨fun eventId _ known => ?_, fun eventId known => ?_, fun row member => ⟨row, ?_, rfl⟩⟩
  · unfold Database.Recorded at known
    rw [events] at known
    exact known
  · unfold Database.Recorded
    rw [events]
    exact known
  · rw [outbox]
    exact member

instance : Std.Refl (Database.Keeps ids) where
  refl _ := .of_eq rfl rfl

instance : IsTrans Database (Database.Keeps ids) where
  trans first second third early late := by
    refine ⟨fun eventId apart known => ?_, fun eventId known => ?_, fun row member => ?_⟩
    · exact early.unrecorded eventId apart (late.unrecorded eventId apart known)
    · exact late.recorded eventId (early.recorded eventId known)
    · obtain ⟨between, present, same⟩ := early.outbox row member
      obtain ⟨kept, keptMem, sameId⟩ := late.outbox between present
      exact ⟨kept, keptMem, sameId.trans same⟩

end Database.Keeps

namespace StoreProgram

variable {ids : String → Prop} {Result : Type}

/-- A connection keeps what its body keeps: a commit publishes the body's rows and a
rollback the earlier ones. -/
theorem connection_keeps {body : StoreProgram Result} (keeps : Within (Database.Keeps ids) body) :
    Within (Database.Keeps ids) (connection body) :=
  ((reads_select _).within.bind fun _ => keeps).transaction

/-- An update of sessions keeps every event and outbox row. -/
theorem updateSessions_keeps {scope : SessionRow → Bool} {change : SessionRow → SessionRow}
    {keepsId : ∀ row, (change row).id = row.id} :
    Within (Database.Keeps ids) (updateSessions scope change keepsId) := by
  apply within_statement
  intro database count changed effect
  cases effect
  exact .of_eq rfl rfl

/-- An update of interactions keeps every event and outbox row. -/
theorem updateInteractions_keeps {scope : InteractionRow → Bool}
    {change : InteractionRow → InteractionRow} {keeps : Database.KeepsKeys change} :
    Within (Database.Keeps ids) (updateInteractions scope change keeps) := by
  apply within_statement
  intro database count changed effect
  cases effect
  exact .of_eq rfl rfl

/-- An update of the outbox may change a row but neither drops nor renames one. -/
theorem updateOutbox_keeps {scope : OutboxRow → Bool} {change : OutboxRow → OutboxRow}
    {keepsId : ∀ row, (change row).id = row.id} :
    Within (Database.Keeps ids) (updateOutbox scope change keepsId) := by
  apply within_statement
  intro database count changed effect
  cases effect
  refine ⟨fun _ _ known => known, fun _ known => known, fun row member => ?_⟩
  refine ⟨if scope row then change row else row, List.mem_map_of_mem member, ?_⟩
  split
  · exact keepsId row
  · rfl

/-- Inserting a session keeps every event and outbox row. -/
theorem insertSession_keeps {row : SessionRow} :
    Within (Database.Keeps ids) (statement fun database => database.insertSession row) := by
  apply within_statement
  intro database result changed effect
  unfold Database.insertSession at effect
  split at effect
  · cases effect
    exact .of_eq rfl rfl
  · cases effect

/-- Inserting an interaction keeps every event and outbox row, also where it is refused. -/
theorem insertInteraction_keeps {interaction : PendingInteraction} :
    Within (Database.Keeps ids) (insertInteraction interaction) := by
  apply within_statement
  intro database result changed effect
  unfold Database.insertInteraction at effect
  split at effect
  · split at effect
    · split at effect
      · cases effect
        exact .of_eq rfl rfl
      · cases effect
    · cases effect
  · cases effect

/-- Inserting an outbox row keeps the rows that were there. -/
theorem insertOutbox_keeps {row : OutboxRow} :
    Within (Database.Keeps ids) (statement fun database => database.insertOutbox row) := by
  apply within_statement
  intro database outboxId changed effect
  unfold Database.insertOutbox at effect
  split at effect
  · cases effect
    refine ⟨fun _ _ known => known, fun _ known => known, fun old member => ⟨old, ?_, rfl⟩⟩
    exact List.mem_append_left _ member
  · cases effect

/-- Inserting an audit row keeps every event and outbox row. -/
theorem insertAudit_keeps {row : AuditRow} :
    Within (Database.Keeps ids) (statement fun database => database.insertAudit row) := by
  apply within_statement
  intro database auditId changed effect
  unfold Database.insertAudit at effect
  split at effect
  · cases effect
    exact .of_eq rfl rfl
  · cases effect

/-- Recording an event keeps the watched ones when its own id is not among them. -/
theorem insertEventOrIgnore_keeps {row : EventRow} (apart : ¬ ids row.eventId) :
    Within (Database.Keeps ids) (statement fun database =>
      (.ok (database.insertEventOrIgnore row) : Except PyError (Nat × Database))) := by
  apply within_statement
  intro database count changed effect
  obtain rfl : (database.insertEventOrIgnore row).2 = changed :=
    congrArg Prod.snd (Except.ok.inj effect)
  unfold Database.insertEventOrIgnore
  split
  · refine ⟨fun eventId among known => ?_, fun eventId known => ?_,
      fun old member => ⟨old, member, rfl⟩⟩
    · obtain ⟨old, member, rfl⟩ := known
      rcases List.mem_append.mp member with kept | new
      · exact ⟨old, kept, rfl⟩
      · rw [List.mem_singleton.mp new] at among
        exact (apart among).elim
    · obtain ⟨old, member, same⟩ := known
      exact ⟨old, List.mem_append_left _ member, same⟩
  · exact .of_eq rfl rfl

/-- Reading a row count as a success keeps what the counted statement keeps. -/
theorem mark_keeps {count : StoreProgram Nat} (keeps : Within (Database.Keeps ids) count) :
    Within (Database.Keeps ids) (do let count ← count; pure (count == 1)) :=
  keeps.bind fun _ => (reads_pure _).within

/-- Refreshing the status of a session keeps every event and outbox row. -/
theorem refreshSession_keeps (sessionId : String) (updatedAt : Instant) :
    Within (Database.Keeps ids) (refreshSession sessionId updatedAt) := by
  refine (reads_select _).within.bind fun pendingKinds => ?_
  refine (reads_mapM (fun _ => reads_convert _ _) _).within.bind fun kinds => ?_
  exact updateSessions_keeps.bind fun _ => (reads_pure _).within

/-- `update_session` keeps every event and outbox row. -/
theorem updateSession_keeps (sessionId : String) (assignments : SessionAssignments)
    (updatedAt : Instant) :
    Within (Database.Keeps ids) (updateSession sessionId assignments updatedAt) := by
  unfold updateSession
  split
  · exact (getSession_reads sessionId).within
  · exact (connection_keeps updateSessions_keeps).bind fun _ => (getSession_reads sessionId).within

/-- `update_session_if_status` keeps every event and outbox row, whether or not a row
matches. -/
theorem updateSessionIfStatus_keeps (sessionId : String) (expectedStatuses : List String)
    (status : String) (assignments : SessionAssignments) (updatedAt : Instant) :
    Within (Database.Keeps ids)
      (updateSessionIfStatus sessionId expectedStatuses status assignments updatedAt) := by
  refine (reads_mapM (fun _ => reads_convert _ _) _).within.bind fun expected => ?_
  split
  · exact (reads_pure _).within
  · refine (reads_convert _ _).within.bind fun status => ?_
    exact mark_keeps (connection_keeps updateSessions_keeps)

/-- Creating an interaction with its waiting session keeps every event and outbox row. -/
theorem createInteractionAndMarkWaiting_keeps (interaction : PendingInteraction)
    (waitingStatus : String) (updatedAt : Instant) : Within (Database.Keeps ids)
      (createInteractionAndMarkWaiting interaction waitingStatus updatedAt) := by
  refine (reads_convert _ _).within.bind fun waitingStatus => ?_
  split
  · exact (reads_throw _).within
  · refine (validateInteraction_reads interaction).within.bind fun _ => ?_
    refine Within.tryCatch (connection_keeps (updateSessions_keeps.bind fun count => ?_))
      fun error => ?_
    · split
      · exact (reads_pure _).within
      · exact insertInteraction_keeps.bind fun _ => (reads_pure _).within
    · split
      · exact (reads_pure _).within
      · exact (reads_throw _).within

/-- Resolving an interaction writes its row and an audit row, and keeps every event and
outbox row. -/
theorem resolveInteraction_keeps (interactionId decision actorId : String)
    (resolvedAt : Instant) : Within (Database.Keeps ids)
      (resolveInteraction interactionId decision actorId resolvedAt) := by
  refine connection_keeps ((reads_select _).within.bind fun found => ?_)
  split
  · exact (reads_pure _).within
  · refine (normalizedDecision_reads _ _).within.bind fun normalized => ?_
    exact mark_keeps updateInteractions_keeps

/-- What follows the claim of an interaction. -/
theorem claimed_keeps {claim : StoreProgram Nat} (sessionId : String) (updatedAt : Instant)
    (claims : Within (Database.Keeps ids) claim) : Within (Database.Keeps ids) (do
      let count ← claim
      if count ≠ 1 then pure false
      else
        refreshSession sessionId updatedAt
        pure true) := by
  apply claims.bind
  intro count
  split
  · exact (reads_pure _).within
  · exact (refreshSession_keeps sessionId updatedAt).bind fun _ => (reads_pure _).within

/-- Resolving an interaction and refreshing its session keeps every event and outbox row. -/
theorem resolveInteractionAndRefreshSession_keeps (interactionId decision actorId : String)
    (updatedAt : Instant) (status : String) : Within (Database.Keeps ids)
      (resolveInteractionAndRefreshSession interactionId decision actorId updatedAt status) := by
  refine (reads_convert _ _).within.bind fun status => ?_
  split
  · refine connection_keeps ((reads_select _).within.bind fun found => ?_)
    split
    · exact (reads_pure _).within
    · refine (normalizedDecision_reads _ _).within.bind fun normalized => ?_
      exact claimed_keeps _ _ updateInteractions_keeps
  · exact (reads_throw _).within

/-- Cancelling an interaction and refreshing its session keeps every event and outbox
row. -/
theorem cancelInteractionAndRefreshSession_keeps (interactionId : String) (updatedAt : Instant) :
    Within (Database.Keeps ids) (cancelInteractionAndRefreshSession interactionId updatedAt) := by
  refine connection_keeps ((reads_select _).within.bind fun found => ?_)
  split
  · exact (reads_pure _).within
  · exact claimed_keeps _ _ updateInteractions_keeps

/-- What follows the update that ends a session or its turn. -/
theorem ended_keeps {claim : StoreProgram Nat} {sessionId : String} {status : InteractionStatus}
    {resolvedAt : Instant} {settled : status ≠ .pending}
    (claims : Within (Database.Keeps ids) claim) : Within (Database.Keeps ids) (do
      let count ← claim
      if count ≠ 1 then pure none
      else
        let interactionIds ← selectPendingIds sessionId
        let _ ← settleSession sessionId status resolvedAt settled
        pure (some interactionIds)) := by
  apply claims.bind
  intro count
  split
  · exact (reads_pure _).within
  · refine (reads_select _).within.bind fun interactionIds => ?_
    exact updateInteractions_keeps.bind fun _ => (reads_pure _).within

/-- Ending a session with its pending interactions keeps every event and outbox row. -/
theorem claimSessionTerminal_keeps (sessionId terminalStatus summary pendingStatus : String)
    (updatedAt : Instant) : Within (Database.Keeps ids)
      (claimSessionTerminal sessionId terminalStatus summary pendingStatus updatedAt) := by
  refine (reads_convert _ _).within.bind fun terminalStatus => ?_
  split
  · refine (reads_convert _ _).within.bind fun pendingStatus => ?_
    split
    · exact connection_keeps (ended_keeps updateSessions_keeps)
    · exact (reads_throw _).within
  · exact (reads_throw _).within

/-- Finishing an interactive turn keeps every event and outbox row. -/
theorem finishInteractiveTurn_keeps (sessionId turnId summary : String) (updatedAt : Instant) :
    Within (Database.Keeps ids) (finishInteractiveTurn sessionId turnId summary updatedAt) := by
  unfold finishInteractiveTurn
  split
  · exact (reads_throw _).within
  · exact connection_keeps (ended_keeps updateSessions_keeps)

/-- Cancelling the pending interactions of a session keeps every event and outbox row. -/
theorem cancelPendingInteractions_keeps (sessionId status : String) (resolvedAt : Instant) :
    Within (Database.Keeps ids) (cancelPendingInteractions sessionId status resolvedAt) := by
  refine (reads_convert _ _).within.bind fun status => ?_
  split
  · refine connection_keeps ((reads_select _).within.bind fun interactionIds => ?_)
    exact updateInteractions_keeps.bind fun _ => (reads_pure _).within
  · exact (reads_throw _).within

/-- The reconciliation of a startup keeps every event and outbox row. -/
theorem reconcileStartup_keeps (now : Instant) :
    Within (Database.Keeps ids) (reconcileStartup now) := by
  refine connection_keeps ((reads_select _).within.bind fun sessionIds => ?_)
  refine (reads_select _).within.bind fun interactionIds => ?_
  apply updateSessions_keeps.bind
  intro _
  exact updateInteractions_keeps.bind fun _ => (reads_pure _).within

end StoreProgram

/-- The operation may record the event with this id. -/
def StoreOperation.MayRecord (operation : StoreOperation) (eventId : String) : Prop :=
  ∃ receivedAt, operation = .recordEventOnce eventId receivedAt

open StoreProgram StoreOperation in
/-- An operation deletes no event and no outbox row, and records no event but its own. -/
theorem StoreOperation.keeps {ids : String → Prop} (operation : StoreOperation)
    (apart : ∀ eventId, operation.MayRecord eventId → ¬ ids eventId) :
    Within (Database.Keeps ids) operation.perform := by
  have answers {Result : Type} {answer : Result → StoreAnswer} {program : StoreProgram Result}
      (keeps : Within (Database.Keeps ids) program) :
      Within (Database.Keeps ids) (answering answer program) :=
    keeps.bind fun _ => (reads_pure _).within
  suffices kept : Within (Database.Keeps ids) operation.run from
    kept.bind fun _ => (reads_pure _).within
  cases operation with
  | createSession session => exact answers (connection_keeps insertSession_keeps)
  | updateSession sessionId assignments updatedAt => exact answers (updateSession_keeps _ _ _)
  | updateSessionIfStatus sessionId expectedStatuses status assignments updatedAt =>
    exact answers (updateSessionIfStatus_keeps _ _ _ _ _)
  | createInteraction interaction =>
    apply answers
    exact (validateInteraction_reads interaction).within.bind fun _ =>
      connection_keeps insertInteraction_keeps
  | createInteractionAndMarkWaiting interaction waitingStatus updatedAt =>
    exact answers (createInteractionAndMarkWaiting_keeps _ _ _)
  | attachLarkMessageId interactionId messageId =>
    exact answers (mark_keeps (connection_keeps updateInteractions_keeps))
  | resolveInteraction interactionId decision actorId resolvedAt =>
    exact answers (resolveInteraction_keeps _ _ _ _)
  | resolveInteractionAndRefreshSession interactionId decision actorId updatedAt status =>
    exact answers (resolveInteractionAndRefreshSession_keeps _ _ _ _ _)
  | cancelInteractionAndRefreshSession interactionId updatedAt =>
    exact answers (cancelInteractionAndRefreshSession_keeps _ _)
  | claimSessionTerminal sessionId terminalStatus summary pendingStatus updatedAt =>
    exact answers (claimSessionTerminal_keeps _ _ _ _ _)
  | finishInteractiveTurn sessionId turnId summary updatedAt =>
    exact answers (finishInteractiveTurn_keeps _ _ _ _)
  | expireInteraction interactionId resolvedAt =>
    exact answers (mark_keeps (connection_keeps updateInteractions_keeps))
  | cancelPendingInteractions sessionId status resolvedAt =>
    exact answers (cancelPendingInteractions_keeps _ _ _)
  | recordEventOnce eventId receivedAt =>
    refine answers (mark_keeps (connection_keeps (insertEventOrIgnore_keeps ?_)))
    exact apart eventId ⟨receivedAt, rfl⟩
  | enqueueOutbox entry => exact answers (connection_keeps insertOutbox_keeps)
  | markOutboxSent outboxId sentAt =>
      exact answers (mark_keeps (connection_keeps updateOutbox_keeps))
  | recordOutboxFailure outboxId error nextAttemptAt =>
    exact answers (mark_keeps (connection_keeps updateOutbox_keeps))
  | recordAudit eventType detailSummary sessionId interactionId actorId createdAt =>
    exact answers (connection_keeps insertAudit_keeps)
  | reconcileStartup now => exact answers (reconcileStartup_keeps now)
  | query mapped =>
    apply Reads.within
    apply (connection_reads (reads_select _)).bind
    intro rows
    split
    · exact reads_pure _
    · exact reads_throw _

end LarkBot
