import LarkBot.Codex.Store.Refinement

/-! # Reading the rows back

The converters of the store read a row of texts as a record and raise when a text is not one that
they know, so a row that they cannot read would stop the daemon at every start. Whatever faults
strike the operations that wrote the tables, no such row is stored
(`LarkBot.stored_rows_read_back`).
-/

namespace LarkBot

open Foundation

/-- `interaction_from_row`. -/
def InteractionRow.toInteraction (row : InteractionRow) : Except PyError PendingInteraction :=
  match row.requestedAt.instant?, row.resolvedAt.mapM TimeColumn.instant?,
    row.expiresAt.instant? with
  | some requestedAt, some resolvedAt, some expiresAt =>
      match InteractionKind.ofValue? row.kind, InteractionStatus.ofValue? row.status,
        row.decision.mapM InteractionDecision.ofValue? with
      | some kind, some status, some decision =>
          let interaction : PendingInteraction := {
            id := row.id, sessionId := row.sessionId, requestId := row.requestId, kind, status
            larkMessageId := row.larkMessageId, payloadSummary := row.payloadSummary, requestedAt
            resolvedAt, expiresAt, actorId := row.actorId, decision }
          match CodexTables.validateInteraction interaction with
          | .ok _ => .ok interaction
          | .error error => .error ⟨.other "ValidationError", error.message⟩
      | _, _, _ => .error ⟨.other "ValidationError", "PendingInteraction"⟩
  | _, _, _ => .error (valueError "Invalid isoformat string")

/-- An interaction that waits without metadata, or is settled, is read back as it was stored. -/
theorem InteractionRow.toInteraction_ofInteraction {interaction : PendingInteraction}
    (unresolved : interaction.Unresolved) :
    (InteractionRow.ofInteraction interaction).toInteraction = .ok interaction := by
  have valid : CodexTables.validateInteraction interaction = .ok () := by
    unfold CodexTables.validateInteraction
    apply if_neg
    rintro ⟨pending, metadata⟩
    obtain ⟨resolvedAt, actorId, decision⟩ := unresolved pending
    simp only [resolvedAt, actorId, decision, Option.isSome_none, Bool.false_eq_true, or_self]
      at metadata
  have times : (interaction.resolvedAt.map TimeColumn.instant).mapM TimeColumn.instant? =
      some interaction.resolvedAt := by
    cases interaction.resolvedAt <;> rfl
  have decisions : (interaction.decision.map InteractionDecision.value).mapM
      InteractionDecision.ofValue? = some interaction.decision := by
    cases interaction.decision with
    | none => rfl
    | some decision =>
        cases decision <;> rfl
  unfold InteractionRow.toInteraction InteractionRow.ofInteraction
  simp only [TimeColumn.instant?, times, decisions, InteractionKind.ofValue?_value,
    InteractionStatus.ofValue?_value, valid]

namespace StoreOperation

variable {records next : StoredRecords} {operation : StoreOperation}
  {answer : StoreAnswer}

/-- A step of the tables, whatever it reports. -/
def Settles (records next : StoredRecords) : Prop :=
  ∃ reported, records.tables.Settling next.tables reported

/-- What leaves the interactions settles none. -/
theorem settles_of_eq (rows : next.tables.interactions = records.tables.interactions) :
    Settles records next :=
  ⟨[], .of_eq rows⟩

/-- An operation on the two tables settles what it does there. -/
theorem settles_onTables {Result : Type} {outcome : Except PyError (Result × CodexTables)}
    {result : Result} (specified : records.onTables outcome = .ok (result, next))
    (settling : ∀ tables, outcome = .ok (result, tables) →
      ∃ reported, records.tables.Settling tables reported) : Settles records next := by
  cases outcome with
  | error error => cases specified
  | ok done =>
      cases specified
      exact settling _ rfl

/-- What is taken for an answer settles what the result did. -/
theorem settles_answered {Result : Type} {meaning : Result → StoreAnswer}
    {outcome : Except PyError (Result × StoredRecords)}
    (specified : StoredRecords.answered meaning outcome = .ok (answer, next))
    (settles : ∀ result next, outcome = .ok (result, next) → Settles records next) :
    Settles records next := by
  cases outcome with
  | error error => cases specified
  | ok done =>
      cases specified
      exact settles _ _ rfl

/-- The rows of the interactions take the steps of a row, and a new row has no metadata if it
waits. -/
theorem effect_settles (specified : operation.effect records = .ok (answer, next)) :
    Settles records next := by
  cases operation with
  | createSession session =>
      simp only [effect] at specified
      apply settles_answered specified
      intro _ after specified
      apply settles_onTables specified
      intro tables done
      obtain ⟨tables, created, same⟩ := map_eq_ok.mp done
      cases same
      obtain ⟨_, _, interactions⟩ := CodexTables.insertSession_ok created
      exact ⟨_, .of_eq interactions⟩
  | updateSession sessionId assignments updatedAt =>
      apply settles_answered specified
      intro found after specified
      unfold StoredRecords.updateSession at specified
      split at specified
      next =>
        cases specified
        exact settles_of_eq rfl
      next =>
        cases specified
        exact settles_of_eq rfl
  | updateSessionIfStatus sessionId expectedStatuses status assignments updatedAt =>
      apply settles_answered specified
      intro _ after specified
      obtain ⟨expected, _, specified⟩ := bind_eq_ok.mp specified
      split at specified
      next =>
        cases specified
        exact settles_of_eq rfl
      next =>
        obtain ⟨parsed, _, specified⟩ := bind_eq_ok.mp specified
        cases specified
        exact settles_of_eq rfl
  | createInteraction interaction =>
      simp only [effect] at specified
      apply settles_answered specified
      intro _ after specified
      obtain ⟨tables, created, specified⟩ := bind_eq_ok.mp specified
      cases specified
      exact ⟨[], CodexTables.createInteraction_settling created⟩
  | createInteractionAndMarkWaiting interaction waitingStatus updatedAt =>
      apply settles_answered specified
      intro _ after specified
      obtain ⟨parsed, _, specified⟩ := bind_eq_ok.mp specified
      exact settles_onTables specified fun tables done =>
        ⟨_, CodexTables.createInteractionAndMarkWaiting_settling done⟩
  | attachLarkMessageId interactionId messageId =>
      apply settles_answered specified
      intro _ after specified
      apply settles_onTables specified
      intro tables done
      cases done
      exact ⟨_, CodexTables.attachLarkMessageId_settling interactionId messageId⟩
  | resolveInteraction interactionId decision actorId resolvedAt =>
      apply settles_answered specified
      intro _ after specified
      apply settles_onTables specified
      intro tables done
      unfold CodexTables.resolveInteraction at done
      split at done
      next =>
        cases done
        exact ⟨_, .of_eq rfl⟩
      next kind selected =>
        obtain ⟨row, found, rfl⟩ := Option.map_eq_some_iff.mp selected
        obtain ⟨member, same⟩ := CodexTables.getInteraction_eq_some.mp found
        exact ⟨_, CodexTables.resolveSelected_settling ⟨row, member, same, rfl⟩ done⟩
  | resolveInteractionAndRefreshSession interactionId decision actorId updatedAt status =>
      apply settles_answered specified
      intro _ after specified
      obtain ⟨parsed, _, specified⟩ := bind_eq_ok.mp specified
      exact settles_onTables specified fun tables done =>
        ⟨_, CodexTables.resolveInteractionAndRefreshSession_settling done⟩
  | cancelInteractionAndRefreshSession interactionId updatedAt =>
      apply settles_answered specified
      intro _ after specified
      exact settles_onTables specified fun tables done =>
        ⟨_, CodexTables.cancelInteractionAndRefreshSession_settling (Except.ok.inj done)⟩
  | claimSessionTerminal sessionId terminalStatus summary pendingStatus updatedAt =>
      apply settles_answered specified
      intro ids after specified
      obtain ⟨terminal, _, specified⟩ := bind_eq_ok.mp specified
      split at specified
      next =>
        obtain ⟨settled, _, specified⟩ := bind_eq_ok.mp specified
        exact settles_onTables specified fun tables done =>
          ⟨_, CodexTables.claimSessionTerminal_settling done⟩
      next => cases specified
  | finishInteractiveTurn sessionId turnId summary updatedAt =>
      apply settles_answered specified
      intro ids after specified
      exact settles_onTables specified fun tables done =>
        ⟨_, CodexTables.finishInteractiveTurn_settling done⟩
  | expireInteraction interactionId resolvedAt =>
      apply settles_answered specified
      intro _ after specified
      apply settles_onTables specified
      intro tables done
      have settling := @CodexTables.settleInteraction_settling records.tables interactionId
        (CodexTables.close .expired resolvedAt) (CodexTables.close_settles (by decide) resolvedAt)
        fun row waiting => .closed .expired resolvedAt waiting.2.2 (Or.inl rfl)
      cases done
      exact ⟨_, settling⟩
  | cancelPendingInteractions sessionId status resolvedAt =>
      simp only [effect] at specified
      apply settles_answered specified
      intro ids after specified
      obtain ⟨parsed, _, specified⟩ := bind_eq_ok.mp specified
      exact settles_onTables specified fun tables done =>
        ⟨_, CodexTables.cancelPendingInteractions_settling done⟩
  | recordEventOnce eventId receivedAt =>
      apply settles_answered specified
      intro _ after specified
      unfold StoredRecords.recordEventOnce at specified
      split at specified
      all_goals
        cases specified
        exact settles_of_eq rfl
  | enqueueOutbox entry =>
      apply settles_answered specified
      intro id after specified
      obtain ⟨store, enqueued, same⟩ := map_eq_ok.mp specified
      cases same
      exact settles_of_eq
        (congrArg CodexTables.interactions (SQLiteCodexStore.enqueueOutbox_tables enqueued))
  | markOutboxSent outboxId sentAt =>
      cases specified
      exact settles_of_eq rfl
  | recordOutboxFailure outboxId error nextAttemptAt =>
      cases specified
      exact settles_of_eq rfl
  | recordAudit eventType detailSummary sessionId interactionId actorId createdAt =>
      apply settles_answered specified
      intro id after specified
      unfold StoredRecords.recordAudit at specified
      split at specified
      next =>
        cases specified
        exact settles_of_eq rfl
      next => cases specified
  | reconcileStartup now =>
      cases specified
      exact ⟨_, CodexTables.reconcileStartup_settling now⟩
  | query mapped =>
      cases specified
      exact settles_of_eq rfl

/-- No operation leaves a row that waits with resolution metadata. -/
theorem applied_unresolved (unresolved : ∀ row ∈ records.tables.interactions, row.Unresolved) :
    ∀ row ∈ (applied records operation).tables.interactions, row.Unresolved := by
  unfold applied
  split
  next succeeded next specified =>
    obtain ⟨reported, settling⟩ := effect_settles specified
    intro row member
    rcases settling.origin row member with valid | ⟨old, present, settled, step⟩
    · exact valid
    · exact step.unresolved (unresolved old present)
  next => exact unresolved

end StoreOperation

/-- Whatever faults strike a run of operations, every session and every interaction that its tables
hold is read back without an exception, as the record that the row stands for. -/
theorem stored_rows_read_back (calls : List (StoreOperation × List (Option PyError))) :
    (∀ row ∈ (StoreOperation.runAll .empty calls).sessions,
      ∃ session, row.toSession = .ok session ∧ SessionRow.ofSession session = row) ∧
    ∀ row ∈ (StoreOperation.runAll .empty calls).interactions,
      ∃ interaction, row.toInteraction = .ok interaction ∧
        InteractionRow.ofInteraction interaction = row := by
  have held : ∃ records : StoredRecords, (StoreOperation.runAll .empty calls).Holds records ∧
      ∀ row ∈ records.tables.interactions, row.Unresolved := by
    induction calls using List.reverseRecOn with
    | nil =>
        refine ⟨.empty, Database.holds_empty, fun row member => ?_⟩
        cases member
    | append_singleton calls call ih =>
        obtain ⟨records, holds, unresolved⟩ := ih
        obtain ⟨operation, faults⟩ := call
        unfold StoreOperation.runAll
        rw [List.foldl_append]
        rcases operation.outcome_holds holds faults with ⟨_, unchanged⟩ | changed
        · exact ⟨records, unchanged, unresolved⟩
        · exact ⟨_, changed, StoreOperation.applied_unresolved unresolved⟩
  obtain ⟨records, holds, unresolved⟩ := held
  rw [holds.sessions, holds.interactions]
  simp only [List.forall_mem_map]
  constructor
  · intro session _
    exact ⟨session, SessionRow.toSession_ofSession session, rfl⟩
  · intro interaction member
    exact ⟨interaction,
      InteractionRow.toInteraction_ofInteraction (unresolved interaction member), rfl⟩

end LarkBot
