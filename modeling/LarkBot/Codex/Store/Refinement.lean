import Mathlib.Data.List.Induction
import LarkBot.Foundation.Commits
import LarkBot.Codex.Store.Records

/-! # The statements refine the records

An operation of the store, run statement by statement on the rows, does to the records what
`LarkBot.StoreOperation.effect` says, unless a fault strikes, and then it leaves them
(`LarkBot.operation_refines`). So whatever strikes on the way, what a run of operations leaves is
what the operations that took effect make of the records (`LarkBot.run_refines`).
-/

namespace LarkBot

open Foundation

/-! ## Programs on the rows -/

namespace StoreProgram

open Program

variable {Result Other : Type} {possible : PyError → Prop} {database : Database}
  {records : StoredRecords} {program body : StoreProgram Result}
  {spec : Except PyError (Result × StoredRecords)}

/-- Unless a possible fault strikes, the program ends as specified, and what it leaves holds the
records that are specified; an exception leaves the tables, as a fault does. -/
def Refines (possible : PyError → Prop) (database : Database) (program : StoreProgram Result)
    (spec : Except PyError (Result × StoredRecords)) : Prop :=
  match spec with
  | .ok (result, next) =>
      ∃ after, Commits possible program database (.ok result) after ∧ after.Holds next
  | .error error => Commits possible program database (.error error) database

/-- The same for the body of a connection, which undoes what a body that raises has done. -/
def BodyRefines (possible : PyError → Prop) (database : Database) (body : StoreProgram Result)
    (spec : Except PyError (Result × StoredRecords)) : Prop :=
  match spec with
  | .ok (result, next) =>
      ∃ after, Computes possible body database (.ok result) after ∧ after.Holds next
  | .error error => ∃ after, Computes possible body database (.error error) after

/-- A connection refines what its body does: it commits a body that returns and undoes
one that raises. -/
theorem BodyRefines.connection (refines : BodyRefines possible database body spec) :
    Refines possible database (connection body) spec := by
  rcases spec with error | ⟨result, next⟩
  · obtain ⟨after, computes⟩ := refines
    exact ((computes_select _).bind computes).undone
  · obtain ⟨after, computes, held⟩ := refines
    exact ⟨after, ((computes_select _).bind computes).commits, held⟩

/-- What the caller makes of the result of a program is made of the specified result too. -/
theorem Refines.map (refines : Refines possible database program spec)
    (meaning : Result → Other) :
    Refines possible database (program >>= fun result => pure (meaning result))
      (spec.map fun (result, next) => (meaning result, next)) := by
  rcases spec with error | ⟨result, next⟩
  · exact Commits.bind_error refines
  · obtain ⟨after, commits, held⟩ := refines
    exact ⟨after, commits.map meaning, held⟩

/-- A result without a statement leaves the records. -/
theorem refines_pure (holds : database.Holds records) (result : Result) :
    Refines possible database (pure result) (.ok (result, records)) :=
  ⟨database, commits_pure, holds⟩

/-- A program refines every specification that is equal to the one it refines. -/
theorem refines_eq {other : Except PyError (Result × StoredRecords)} (same : other = spec)
    (refines : Refines possible database program other) : Refines possible database program spec :=
  same ▸ refines

/-- A raised error leaves the tables as it found them. -/
theorem refines_throw (error : PyError) :
    Refines possible database (throw error : StoreProgram Result) (.error error) :=
  commits_throw

/-- A conversion raises alike on both sides. -/
theorem refines_sessionStatus {next : SessionStatus → StoreProgram Result}
    {specified : SessionStatus → Except PyError (Result × StoredRecords)} (value : String)
    (rest : ∀ status, Refines possible database (next status) (specified status)) :
    Refines possible database (sessionStatus value >>= next)
      (SessionStatus.parse value >>= specified) := by
  unfold sessionStatus SessionStatus.parse
  rcases SessionStatus.ofValue? value with none | status
  · exact Commits.bind_error commits_throw
  · exact rest status

/-- A status is parsed in front of the program as it is in the specification, with the
same error. -/
theorem refines_interactionStatus {next : InteractionStatus → StoreProgram Result}
    {specified : InteractionStatus → Except PyError (Result × StoredRecords)} (value : String)
    (rest : ∀ status, Refines possible database (next status) (specified status)) :
    Refines possible database (interactionStatus value >>= next)
      (InteractionStatus.parse value >>= specified) := by
  unfold interactionStatus InteractionStatus.parse
  rcases InteractionStatus.ofValue? value with none | status
  · exact Commits.bind_error commits_throw
  · exact rest status

/-- A result without a statement leaves the records, inside a connection as well. -/
theorem bodyRefines_pure (holds : database.Holds records) (result : Result) :
    BodyRefines possible database (pure result) (.ok (result, records)) :=
  ⟨database, computes_pure, holds⟩

/-- A query changes nothing, so what follows it is judged from the same tables. -/
theorem bodyRefines_select {read : Database → Other} {next : Other → StoreProgram Result}
    (rest : BodyRefines possible database (next (read database)) spec) :
    BodyRefines possible database (Program.select read >>= next) spec := by
  rcases spec with error | ⟨result, after⟩
  · obtain ⟨left, computes⟩ := rest
    exact ⟨left, (computes_select read).bind computes⟩
  · obtain ⟨left, computes, held⟩ := rest
    exact ⟨left, (computes_select read).bind computes, held⟩

/-- What follows a statement starts from what the statement left. -/
theorem BodyRefines.bind {first : StoreProgram Other} {middle : Other} {left : StoredRecords}
    {next : Other → StoreProgram Result}
    (begins : BodyRefines possible database first (.ok (middle, left)))
    (rest : ∀ between, between.Holds left → BodyRefines possible between (next middle) spec) :
    BodyRefines possible database (first >>= next) spec := by
  obtain ⟨between, first, held⟩ := begins
  have goesOn := rest between held
  rcases spec with error | ⟨result, records⟩
  · obtain ⟨after, computes⟩ := goesOn
    exact ⟨after, first.bind computes⟩
  · obtain ⟨after, computes, holds⟩ := goesOn
    exact ⟨after, first.bind computes, holds⟩

/-- A statement that succeeds refines the records that the rows it leaves hold. -/
theorem BodyRefines.of_statement {effect : Database → Except PyError (Result × Database)}
    {result : Result} {after : Database} (effected : effect database = .ok (result, after))
    (holds : after.Holds records) :
    BodyRefines possible database (Program.statement effect) (.ok (result, records)) :=
  ⟨after, computes_statement effected, holds⟩

/-- A statement that raises refines the same error. -/
theorem BodyRefines.of_raise {effect : Database → Except PyError (Result × Database)}
    {error : PyError} (raised : effect database = .error error) :
    BodyRefines possible database (Program.statement effect) (.error error) :=
  ⟨database, computes_raise raised⟩

/-- What the body makes of the result of a statement is made of the specified result too. -/
theorem BodyRefines.map (refines : BodyRefines possible database body spec)
    (meaning : Result → Other) :
    BodyRefines possible database (body >>= fun result => pure (meaning result))
      (spec.map fun (result, next) => (meaning result, next)) := by
  rcases spec with error | ⟨result, next⟩
  · obtain ⟨after, computes⟩ := refines
    exact ⟨after, computes.bind_error⟩
  · obtain ⟨after, computes, held⟩ := refines
    exact ⟨after, computes.bind computes_pure, held⟩

/-- An update of session rows is the update of the sessions that it selects, with the
same count. -/
theorem bodyRefines_updateSessions (holds : database.Holds records) {scope : SessionRow → Bool}
    {change : SessionRow → SessionRow} {keepsId : ∀ row, (change row).id = row.id}
    (selected : CodexSession → Bool) (assign : CodexSession → CodexSession)
    (keeps : ∀ session, (assign session).id = session.id)
    (scopes : ∀ session, scope (.ofSession session) = selected session)
    (changes : ∀ session, change (.ofSession session) = .ofSession (assign session)) :
    BodyRefines possible database (updateSessions scope change keepsId)
      (.ok (rowcount selected records.tables.sessions,
        records.withTables (records.tables.updateSessions selected assign keeps))) := by
  refine ⟨database.updateSessions scope change keepsId, ?_, holds.updateSessions scopes changes⟩
  rw [← holds.rowcountSessions scopes]
  exact computes_statement rfl

/-- An update of interaction rows is the update of the interactions that it selects,
with the same count. -/
theorem bodyRefines_updateInteractions (holds : database.Holds records)
    {scope : InteractionRow → Bool} {change : InteractionRow → InteractionRow}
    {keeps : Database.KeepsKeys change} (selected : PendingInteraction → Bool)
    {assign : PendingInteraction → PendingInteraction} (settles : CodexTables.Settles assign)
    (scopes : ∀ interaction, scope (.ofInteraction interaction) = selected interaction)
    (changes : ∀ interaction,
      change (.ofInteraction interaction) = .ofInteraction (assign interaction)) :
    BodyRefines possible database (updateInteractions scope change keeps)
      (.ok (rowcount selected records.tables.interactions,
        records.withTables (records.tables.updateInteractions selected assign settles))) := by
  refine ⟨database.updateInteractions scope change keeps, ?_,
    holds.updateInteractions scopes changes⟩
  rw [← holds.rowcountInteractions scopes]
  exact computes_statement rfl

/-- Texts are converted one after the other. -/
theorem refines_sessionStatuses {next : List SessionStatus → StoreProgram Result}
    {specified : List SessionStatus → Except PyError (Result × StoredRecords)}
    (values : List String)
    (rest : ∀ statuses, Refines possible database (next statuses) (specified statuses)) :
    Refines possible database (values.mapM sessionStatus >>= next)
      (values.mapM SessionStatus.parse >>= specified) := by
  induction values generalizing next specified with
  | nil => exact rest []
  | cons value values ih =>
      rw [List.mapM_cons, List.mapM_cons]
      simp only [bind_assoc, pure_bind]
      apply refines_sessionStatus value
      intro status
      exact ih fun statuses => rest (status :: statuses)

/-- The kinds that the store wrote are kinds. -/
theorem interactionKinds (kinds : List InteractionKind) :
    (kinds.map InteractionKind.value).mapM interactionKind = pure kinds := by
  induction kinds with
  | nil => rfl
  | cons kind kinds ih =>
      rw [List.map_cons, List.mapM_cons, ih]
      unfold interactionKind convert
      rw [InteractionKind.ofValue?_value]
      rfl

/-- The check of a decision against its kind is the same on the stored texts. -/
theorem normalizedDecision_value (kind : InteractionKind) (decision : String) :
    normalizedDecision kind.value decision =
      match normalizeDecision kind decision with
      | .ok normalized => pure normalized
      | .error error => throw error := by
  unfold normalizedDecision interactionKind convert
  rw [InteractionKind.ofValue?_value]
  rfl

section Operations

/-- Inserting the row of a session inserts the session, or raises on a key that is taken. -/
theorem bodyRefines_insertSession (holds : database.Holds records) (session : CodexSession) :
    BodyRefines possible database
      (Program.statement fun database => database.insertSession (.ofSession session))
      ((records.tables.insertSession session).map fun tables => ((), records.withTables tables)) :=
      by
  have used : (∀ old ∈ database.sessions, old.id ≠ session.id) ↔
      ∀ old ∈ records.tables.sessions, old.id ≠ session.id := by
    rw [holds.sessions, List.forall_mem_map]
    exact Iff.rfl
  unfold CodexTables.insertSession
  by_cases fresh : ∀ old ∈ records.tables.sessions, old.id ≠ session.id
  · rw [dif_pos fresh]
    have rows : database.sessions ++ [.ofSession session] =
        (records.tables.sessions ++ [session]).map SessionRow.ofSession := by
      rw [holds.sessions, List.map_append]
      rfl
    exact ⟨_, computes_statement (dif_pos (used.mpr fresh)), rows, holds.interactions,
      holds.outbox, holds.outboxLast, holds.events, holds.audit, holds.auditLast⟩
  · rw [dif_neg fresh]
    refine ⟨database, computes_raise ?_⟩
    unfold Database.insertSession
    exact dif_neg (mt used.mp fresh)

/-- Inserting the row of an interaction inserts the interaction, or raises on a key that
is taken or a session that is missing. -/
theorem bodyRefines_insertInteraction (holds : database.Holds records)
    (interaction : PendingInteraction) :
    BodyRefines possible database
      (Program.statement fun database => database.insertInteraction (.ofInteraction interaction))
      ((records.tables.insertInteraction interaction).map fun tables =>
        ((), records.withTables tables)) := by
  have owner : (∃ session ∈ database.sessions, session.id = interaction.sessionId) ↔
      ∃ session ∈ records.tables.sessions, session.id = interaction.sessionId :=
    holds.mem_sessions interaction.sessionId
  have used : (∀ old ∈ database.interactions, old.id ≠ interaction.id) ↔
      ∀ old ∈ records.tables.interactions, old.id ≠ interaction.id := by
    rw [holds.interactions, List.forall_mem_map]
    exact Iff.rfl
  have claimed : (∀ old ∈ database.interactions, old.isPending →
        (InteractionRow.ofInteraction interaction).isPending →
        old.requestId ≠ interaction.requestId) ↔
      ∀ old ∈ records.tables.interactions, old.isPending → interaction.isPending →
        old.requestId ≠ interaction.requestId := by
    rw [holds.interactions, List.forall_mem_map]
    simp only [InteractionRow.isPending_ofInteraction]
    exact Iff.rfl
  unfold CodexTables.insertInteraction
  by_cases owned : ∃ session ∈ records.tables.sessions, session.id = interaction.sessionId
  · rw [dif_pos owned]
    by_cases fresh : ∀ old ∈ records.tables.interactions, old.id ≠ interaction.id
    · rw [dif_pos fresh]
      by_cases unclaimed : ∀ old ∈ records.tables.interactions, old.isPending →
          interaction.isPending → old.requestId ≠ interaction.requestId
      · rw [dif_pos unclaimed]
        have rows : database.interactions ++ [.ofInteraction interaction] =
            (records.tables.interactions ++ [interaction]).map InteractionRow.ofInteraction := by
          rw [holds.interactions, List.map_append]
          rfl
        exact ⟨_, computes_statement ((if_pos (owner.mpr owned)).trans
          ((dif_pos (used.mpr fresh)).trans (dif_pos (claimed.mpr unclaimed)))), holds.sessions,
          rows, holds.outbox, holds.outboxLast, holds.events, holds.audit, holds.auditLast⟩
      · rw [dif_neg unclaimed]
        exact ⟨database, computes_raise ((if_pos (owner.mpr owned)).trans
          ((dif_pos (used.mpr fresh)).trans (dif_neg (mt claimed.mp unclaimed))))⟩
    · rw [dif_neg fresh]
      exact ⟨database, computes_raise ((if_pos (owner.mpr owned)).trans
        (dif_neg (mt used.mp fresh)))⟩
  · rw [dif_neg owned]
    exact ⟨database, computes_raise (if_neg (mt owner.mp owned))⟩

/-- `create_session` refines its specification on the records. -/
theorem createSession_refines (holds : database.Holds records) (session : CodexSession) :
    Refines possible database (createSession session)
      ((records.tables.createSession session).map fun tables => ((), records.withTables tables)) :=
  (bodyRefines_insertSession holds _).connection

/-- `update_session_if_status` refines its specification on the records. -/
theorem updateSessionIfStatus_refines (holds : database.Holds records) (sessionId : String)
    (expectedStatuses : List String) (status : String) (assignments : SessionAssignments)
    (updatedAt : Instant) :
    Refines possible database
      (updateSessionIfStatus sessionId expectedStatuses status assignments updatedAt)
      (records.updateSessionIfStatus sessionId expectedStatuses status assignments updatedAt) := by
  unfold updateSessionIfStatus StoredRecords.updateSessionIfStatus
  apply refines_sessionStatuses expectedStatuses
  intro expected
  by_cases none : expected.isEmpty
  · rw [if_pos none, if_pos none]
    exact refines_pure holds false
  · rw [if_neg none, if_neg none]
    apply refines_sessionStatus status
    intro status
    refine (bodyRefines_updateSessions holds
      (fun session => session.id == sessionId && expected.contains session.status)
      ({ assignments with status := some status }.assign updatedAt) (fun _ => rfl)
      (fun session => ?_) (fun session => ?_)).connection.map fun count => count == 1
    · exact congrArg (session.id == sessionId && ·) (SessionStatus.contains_value expected _)
    · rfl

/-- Where no row is selected, nothing changes. -/
theorem updateSessions_missed {tables : CodexTables} {sessionId : String}
    {condition : CodexSession → Bool} {assign : CodexSession → CodexSession}
    {keeps : ∀ session, (assign session).id = session.id}
    (missed : rowcount (fun session => session.id == sessionId && condition session)
      tables.sessions ≠ 1) :
    tables.updateSessions (fun session => session.id == sessionId && condition session) assign
      keeps = tables := by
  refine CodexTables.eq_of_rows (updateWhere_eq_self ?_) rfl
  refine unselected_of_rowcount tables.sessionIds sessionId _ (fun session selected => ?_) missed
  exact ⟨rfl, beq_iff_eq.mp (Bool.and_eq_true _ _ ▸ selected).1⟩

/-- Where no interaction is selected, nothing changes. -/
theorem updateInteractions_missed {tables : CodexTables} {interactionId : String}
    {condition : PendingInteraction → Bool} {assign : PendingInteraction → PendingInteraction}
    (settles : CodexTables.Settles assign)
    (missed : rowcount (fun interaction => interaction.id == interactionId && condition interaction)
      tables.interactions ≠ 1) :
    tables.updateInteractions
        (fun interaction => interaction.id == interactionId && condition interaction) assign
        settles = tables := by
  refine CodexTables.eq_of_rows rfl (updateWhere_eq_self ?_)
  refine unselected_of_rowcount tables.interactionIds interactionId _
    (fun interaction selected => ?_) missed
  exact ⟨rfl, beq_iff_eq.mp (Bool.and_eq_true _ _ ▸ selected).1⟩

/-- The scope of an update of an active session. -/
abbrev activeScope (sessionId : String) (session : CodexSession) : Bool :=
  session.id == sessionId && session.status.isActive

/-- An update of the active row of a session is the update of the active session. -/
theorem bodyRefines_updateActive (holds : database.Holds records) (sessionId : String)
    {change : SessionRow → SessionRow} {keepsId : ∀ row, (change row).id = row.id}
    (assign : CodexSession → CodexSession) (keeps : ∀ session, (assign session).id = session.id)
    (changes : ∀ session, change (.ofSession session) = .ofSession (assign session)) :
    BodyRefines possible database (updateSessions (isActiveSession sessionId) change keepsId)
      (.ok (rowcount (activeScope sessionId) records.tables.sessions,
        records.withTables (records.tables.updateSessions (activeScope sessionId) assign keeps))) :=
  bodyRefines_updateSessions holds _ assign keeps
    (fun session => congrArg (session.id == sessionId && ·) (SessionRow.isActive_ofSession session))
    changes

/-- Settling the pending row of an interaction is any assignment to the record that says
the same. -/
theorem bodyRefines_settleRow (holds : database.Holds records) (interactionId : String)
    {status : InteractionStatus} {decision actorId : Option String} {resolvedAt : Instant}
    (settled : status ≠ .pending) {assign : PendingInteraction → PendingInteraction}
    (settles : CodexTables.Settles assign)
    (changes : ∀ interaction, settle status decision actorId resolvedAt
      (.ofInteraction interaction) =
      .ofInteraction (assign interaction)) :
    BodyRefines possible database
      (settleRow interactionId status decision actorId resolvedAt settled)
      (.ok (rowcount (fun interaction : PendingInteraction =>
          interaction.id == interactionId && interaction.isPending) records.tables.interactions,
        records.withTables (records.tables.settleInteraction interactionId assign settles).2)) :=
  bodyRefines_updateInteractions holds _ settles (fun interaction => congrArg
    (interaction.id == interactionId && ·) (InteractionRow.isPending_ofInteraction interaction))
    changes

/-- The number of rows that an update of one interaction rewrites. -/
def pendingCount (records : StoredRecords) (interactionId : String) : Nat :=
  rowcount (fun interaction : PendingInteraction =>
    interaction.id == interactionId && interaction.isPending) records.tables.interactions

/-- Closing a pending row without a decision closes the pending interaction. -/
theorem bodyRefines_close (holds : database.Holds records) (interactionId : String)
    (status : InteractionStatus) (resolvedAt : Instant) (settled : status ≠ .pending) :
    BodyRefines possible database (settleRow interactionId status none none resolvedAt settled)
      (.ok (pendingCount records interactionId, records.withTables
        (records.tables.settleInteraction interactionId (CodexTables.close status resolvedAt)
          (CodexTables.close_settles settled resolvedAt)).2)) :=
  bodyRefines_settleRow holds interactionId settled _ fun _ => rfl

/-- Resolving a pending row with a decision resolves the pending interaction. -/
theorem bodyRefines_resolve (holds : database.Holds records) (interactionId : String)
    (status : InteractionStatus) (decision : InteractionDecision) (actorId : String)
    (resolvedAt : Instant) (settled : status ≠ .pending) :
    BodyRefines possible database
      (settleRow interactionId status (some decision.value) (some actorId) resolvedAt settled)
      (.ok (pendingCount records interactionId, records.withTables
        (records.tables.settleInteraction interactionId
          (CodexTables.resolve status decision actorId resolvedAt)
          (CodexTables.resolve_settles settled decision actorId resolvedAt)).2)) :=
  bodyRefines_settleRow holds interactionId settled _ fun _ => rfl

/-- Settling the pending rows of a session settles its pending interactions. -/
theorem bodyRefines_settleSession (holds : database.Holds records) (sessionId : String)
    {status : InteractionStatus} (resolvedAt : Instant) (settled : status ≠ .pending) :
    BodyRefines possible database (settleSession sessionId status resolvedAt settled)
      (.ok (rowcount (fun interaction : PendingInteraction =>
          interaction.sessionId == sessionId && interaction.isPending) records.tables.interactions,
        records.withTables (records.tables.settleSession sessionId status resolvedAt settled))) :=
  bodyRefines_updateInteractions holds _ (CodexTables.close_settles settled resolvedAt)
    (fun interaction => congrArg (interaction.sessionId == sessionId && ·)
      (InteractionRow.isPending_ofInteraction interaction)) fun _ => rfl

/-- The ids that a session's pending rows are reported with are those of its pending
interactions, sorted alike. -/
theorem selectedPendingIds (holds : database.Holds records) (sessionId : String) :
    ((database.interactions.filter (isPendingOf sessionId)).map InteractionRow.id).insertionSort
      (· ≤ ·) = records.tables.pendingIds sessionId := by
  rw [holds.filterPending, List.map_map]
  rfl

/-- `claim_session_terminal` refines its specification on the records. -/
theorem claimSessionTerminal_refines (holds : database.Holds records) (sessionId : String)
    (terminalStatus : String) (summary pendingStatus : String) (updatedAt : Instant) :
    Refines possible database
      (claimSessionTerminal sessionId terminalStatus summary pendingStatus updatedAt)
      (records.claimSessionTerminal sessionId terminalStatus summary pendingStatus updatedAt) := by
  unfold claimSessionTerminal StoredRecords.claimSessionTerminal
  apply refines_sessionStatus terminalStatus
  intro terminal
  by_cases ended : terminal.isTerminal
  · rw [if_pos ended, if_pos ended]
    apply refines_interactionStatus pendingStatus
    intro closing
    unfold CodexTables.claimSessionTerminal
    rw [if_pos ended]
    by_cases settled : closing = .expired ∨ closing = .cancelled
    · rw [dif_pos settled, dif_pos settled]
      dsimp only
      apply BodyRefines.connection
      refine (bodyRefines_updateActive holds sessionId (fun session => { session with
        status := terminal, summary := safeSummary summary, updatedAt }) (fun _ => rfl)
        fun session => rfl).bind fun between held => ?_
      by_cases found : rowcount (activeScope sessionId) records.tables.sessions ≠ 1
      · rw [if_pos found, if_pos found]
        rw [updateSessions_missed found] at held
        exact bodyRefines_pure held none
      · rw [if_neg found, if_neg found]
        apply bodyRefines_select
        rw [selectedPendingIds held]
        exact (bodyRefines_settleSession held sessionId updatedAt
          (ne_pending_of_closed settled)).map fun _ => _
    · rw [dif_neg settled, dif_neg settled]
      exact refines_throw _
  · rw [if_neg ended, if_neg ended]
    exact refines_throw _

/-- `finish_interactive_turn` refines its specification on the records. -/
theorem finishInteractiveTurn_refines (holds : database.Holds records)
    (sessionId turnId summary : String) (updatedAt : Instant) :
    Refines possible database (finishInteractiveTurn sessionId turnId summary updatedAt)
      (records.onTables (records.tables.finishInteractiveTurn sessionId turnId summary
        updatedAt)) := by
  unfold finishInteractiveTurn CodexTables.finishInteractiveTurn
  by_cases blank : turnId == ""
  · rw [if_pos blank, if_pos blank]
    exact refines_throw _
  · rw [if_neg blank, if_neg blank]
    simp only [Bool.and_assoc]
    apply BodyRefines.connection
    refine (bodyRefines_updateSessions holds
      (fun session => session.id == sessionId &&
        (session.turnId == some turnId && session.status.isActive))
      (fun session => { session with
        status := .running, turnId := none, summary := safeSummary summary, updatedAt })
      (fun _ => rfl) (fun session => ?_) fun session => rfl).bind fun between held => ?_
    · exact congrArg (fun active => session.id == sessionId &&
        (session.turnId == some turnId && active)) (SessionRow.isActive_ofSession session)
    by_cases found : rowcount (fun session : CodexSession => session.id == sessionId &&
        (session.turnId == some turnId && session.status.isActive)) records.tables.sessions ≠ 1
    · rw [if_pos found, if_pos found]
      rw [updateSessions_missed found] at held
      exact bodyRefines_pure held none
    · rw [if_neg found, if_neg found]
      apply bodyRefines_select
      rw [selectedPendingIds held]
      exact (bodyRefines_settleSession held sessionId updatedAt cancelled_ne_pending).map fun _ => _

/-- `cancel_pending_interactions` refines its specification on the records. -/
theorem cancelPendingInteractions_refines (holds : database.Holds records)
    (sessionId status : String) (resolvedAt : Instant) :
    Refines possible database (cancelPendingInteractions sessionId status resolvedAt)
      (records.cancelPendingInteractions sessionId status resolvedAt) := by
  unfold cancelPendingInteractions StoredRecords.cancelPendingInteractions
  apply refines_interactionStatus status
  intro closing
  unfold CodexTables.cancelPendingInteractions
  by_cases settled : closing = .expired ∨ closing = .cancelled
  · rw [dif_pos settled, dif_pos settled]
    refine BodyRefines.connection (bodyRefines_select ?_)
    rw [selectedPendingIds holds]
    exact (bodyRefines_settleSession holds sessionId resolvedAt
      (ne_pending_of_closed settled)).map fun _ => _
  · rw [dif_neg settled, dif_neg settled]
    exact refines_throw _

/-- `expire_interaction` refines its specification on the records. -/
theorem expireInteraction_refines (holds : database.Holds records) (interactionId : String)
    (resolvedAt : Instant) :
    Refines possible database (expireInteraction interactionId resolvedAt)
      (records.onTables (.ok (records.tables.expireInteraction interactionId resolvedAt))) :=
  (bodyRefines_close holds interactionId .expired resolvedAt (by decide)).connection.map
    fun count => count == 1

/-- `attach_lark_message_id` refines its specification on the records. -/
theorem attachLarkMessageId_refines (holds : database.Holds records)
    (interactionId messageId : String) :
    Refines possible database (attachLarkMessageId interactionId messageId)
      (records.onTables (.ok (records.tables.attachLarkMessageId interactionId messageId))) := by
  have attaches : CodexTables.Settles fun interaction =>
      { interaction with larkMessageId := some messageId } :=
    ⟨fun _ => rfl, fun _ => rfl, fun _ => rfl, fun _ => id⟩
  refine (bodyRefines_updateInteractions holds (fun interaction =>
    interaction.id == interactionId && interaction.isPending && interaction.larkMessageId == none)
    attaches (fun interaction => ?_) fun _ => rfl).connection.map fun count => count == 1
  rw [Bool.and_assoc]
  exact congrArg (fun open_ => interaction.id == interactionId &&
    (open_ && interaction.larkMessageId == none))
    (InteractionRow.isPending_ofInteraction interaction)

/-- What follows the lookup of an interaction's row is given the row of the interaction. -/
theorem selectedInteraction (holds : database.Holds records) (interactionId : String)
    {next : Option InteractionRow → StoreProgram Result}
    (rest : BodyRefines possible database
      (next ((records.tables.getInteraction interactionId).map .ofInteraction)) spec) :
    BodyRefines possible database (selectInteraction interactionId >>= next) spec := by
  apply bodyRefines_select
  rw [holds.findInteraction]
  exact rest

/-- A body refines every specification that is equal to the one it refines. -/
theorem bodyRefines_eq {other : Except PyError (Result × StoredRecords)} (same : other = spec)
    (refines : BodyRefines possible database body other) :
    BodyRefines possible database body spec :=
  same ▸ refines

/-- A decision is normalized alike on both sides. -/
theorem bodyRefines_normalizedDecision {kind : InteractionKind} {decision : String}
    {next : InteractionDecision → StoreProgram Result}
    {specified : InteractionDecision → Except PyError (Result × StoredRecords)}
    (rest : ∀ normalized, BodyRefines possible database (next normalized) (specified normalized)) :
    BodyRefines possible database (normalizedDecision kind.value decision >>= next)
      (normalizeDecision kind decision >>= specified) := by
  rw [normalizedDecision_value]
  rcases normalizeDecision kind decision with error | normalized
  · exact ⟨database, computes_throw.bind_error⟩
  · exact rest normalized

/-- `resolve_interaction` refines its specification on the records, errors of a bad
decision included. -/
theorem resolveInteraction_refines (holds : database.Holds records)
    (interactionId decision actorId : String) (resolvedAt : Instant) :
    Refines possible database (resolveInteraction interactionId decision actorId resolvedAt)
      (records.onTables (records.tables.resolveInteraction interactionId decision actorId
        resolvedAt)) := by
  unfold resolveInteraction CodexTables.resolveInteraction CodexTables.selectKind
  refine BodyRefines.connection (selectedInteraction holds interactionId ?_)
  rcases records.tables.getInteraction interactionId with none | row
  · exact bodyRefines_pure holds false
  · dsimp only [Option.map_some]
    unfold CodexTables.resolveSelected
    refine bodyRefines_eq ?_ (bodyRefines_normalizedDecision fun normalized =>
      (bodyRefines_resolve holds interactionId .resolved normalized actorId resolvedAt
        (by decide)).map fun count => count == 1)
    rcases normalizeDecision row.kind decision with error | normalized <;> rfl

/-- The status of a session is recomputed alike on both sides. -/
theorem bodyRefines_refreshSession (holds : database.Holds records) (sessionId : String)
    (updatedAt : Instant) :
    BodyRefines possible database (refreshSession sessionId updatedAt)
      (.ok ((), records.withTables (records.tables.refreshSession sessionId updatedAt))) := by
  unfold refreshSession
  apply bodyRefines_select
  have kinds : (database.interactions.filter (isPendingOf sessionId)).map InteractionRow.kind =
      ((records.tables.pendingOf sessionId).map PendingInteraction.kind).map
        InteractionKind.value := by
    rw [holds.filterPending, List.map_map, List.map_map]
    rfl
  rw [kinds, interactionKinds, pure_bind]
  exact (bodyRefines_updateActive holds sessionId (fun session => { session with
    status := nextStatus ((records.tables.pendingOf sessionId).map PendingInteraction.kind)
    updatedAt }) (fun _ => rfl) fun _ => rfl).map fun _ => ()

/-- Who settled an interaction recomputes the status of its session. -/
theorem bodyRefines_settledThenRefresh {interactionId sessionId : String}
    {claim : StoreProgram Nat} {change : PendingInteraction → PendingInteraction}
    {settles : CodexTables.Settles change} {updatedAt : Instant}
    {outcome : Except PyError (Bool × CodexTables)}
    (claims : BodyRefines possible database claim (.ok (pendingCount records interactionId,
      records.withTables (records.tables.settleInteraction interactionId change settles).2)))
    (specified : outcome = match records.tables.settleInteraction interactionId change settles with
      | (false, _) => .ok (false, records.tables)
      | (true, settled) => .ok (true, settled.refreshSession sessionId updatedAt)) :
    BodyRefines possible database
      (do
        let count ← claim
        if count ≠ 1 then pure false
        else
          refreshSession sessionId updatedAt
          pure true)
      (records.onTables outcome) := by
  subst specified
  apply claims.bind
  intro between held
  by_cases found : pendingCount records interactionId ≠ 1
  · have missed : records.tables.settleInteraction interactionId change settles =
        (false, records.tables) :=
      Prod.ext (beq_eq_false_iff_ne.mpr found) (updateInteractions_missed settles found)
    rw [missed] at held ⊢
    rw [if_pos found]
    exact bodyRefines_pure held false
  · have won : records.tables.settleInteraction interactionId change settles =
        (true, (records.tables.settleInteraction interactionId change settles).2) :=
      Prod.ext (beq_iff_eq.mpr (not_not.mp found)) rfl
    rw [won, if_neg found]
    exact (bodyRefines_refreshSession held sessionId updatedAt).map fun _ => true

/-- `resolve_interaction_and_refresh_session` refines its specification on the records. -/
theorem resolveInteractionAndRefreshSession_refines (holds : database.Holds records)
    (interactionId decision actorId : String) (updatedAt : Instant) (status : String) :
    Refines possible database
      (resolveInteractionAndRefreshSession interactionId decision actorId updatedAt status)
      (do
        let status ← InteractionStatus.parse status
        records.onTables (records.tables.resolveInteractionAndRefreshSession interactionId decision
          actorId updatedAt status)) := by
  unfold resolveInteractionAndRefreshSession
  apply refines_interactionStatus status
  intro settling
  unfold CodexTables.resolveInteractionAndRefreshSession
  by_cases settled : settling = .resolved ∨ settling = .expired
  · rw [dif_pos settled, dif_pos settled]
    refine BodyRefines.connection (selectedInteraction holds interactionId ?_)
    rcases records.tables.getInteraction interactionId with none | row
    · exact bodyRefines_pure holds false
    · have proper : settling ≠ .pending := by rcases settled with rfl | rfl <;> decide
      refine bodyRefines_eq ?_ (bodyRefines_normalizedDecision fun normalized =>
        bodyRefines_settledThenRefresh
          (bodyRefines_resolve holds interactionId settling normalized actorId updatedAt proper)
          rfl)
      dsimp only
      rcases normalizeDecision row.kind decision with error | normalized <;> rfl
  · rw [dif_neg settled, dif_neg settled]
    exact refines_throw _

/-- `cancel_interaction_and_refresh_session` refines its specification on the records. -/
theorem cancelInteractionAndRefreshSession_refines (holds : database.Holds records)
    (interactionId : String) (updatedAt : Instant) :
    Refines possible database (cancelInteractionAndRefreshSession interactionId updatedAt)
      (records.onTables (.ok (records.tables.cancelInteractionAndRefreshSession interactionId
        updatedAt))) := by
  unfold cancelInteractionAndRefreshSession CodexTables.cancelInteractionAndRefreshSession
  refine BodyRefines.connection (selectedInteraction holds interactionId ?_)
  rcases records.tables.getInteraction interactionId with none | row
  · exact bodyRefines_pure holds false
  · refine bodyRefines_settledThenRefresh
      (bodyRefines_close holds interactionId .cancelled updatedAt cancelled_ne_pending) ?_
    dsimp only
    generalize records.tables.settleInteraction interactionId _ _ = outcome
    obtain ⟨won, settled⟩ := outcome
    cases won <;> rfl

/-- An interaction is validated in front of the program as it is in the specification,
with the same error. -/
theorem validateInteraction_refines {next : StoreProgram Result} (interaction : PendingInteraction)
    (rest : Refines possible database next spec) :
    Refines possible database (validateInteraction interaction >>= fun _ => next)
      (CodexTables.validateInteraction interaction >>= fun _ => spec) := by
  unfold validateInteraction
  rcases CodexTables.validateInteraction interaction with error | ⟨⟩
  · exact Commits.bind_error commits_throw
  · exact rest

/-- The insertion inside a transaction stores the summary cut and redacted, as the
specification does. -/
theorem insertInteraction_refines (holds : database.Holds records)
    (interaction : PendingInteraction) :
    BodyRefines possible database (insertInteraction interaction)
      ((records.tables.insertInteraction
        { interaction with payloadSummary := safeSummary interaction.payloadSummary }).map
        fun tables => ((), records.withTables tables)) :=
  bodyRefines_insertInteraction holds _

/-- `create_interaction` refines its specification on the records. -/
theorem createInteraction_refines (holds : database.Holds records)
    (interaction : PendingInteraction) :
    Refines possible database (createInteraction interaction)
      (records.createInteraction interaction) := by
  have validated : records.createInteraction interaction = (do
      CodexTables.validateInteraction interaction
      let tables ← records.tables.insertInteraction
        { interaction with payloadSummary := safeSummary interaction.payloadSummary }
      pure ((), records.withTables tables)) := by
    unfold StoredRecords.createInteraction CodexTables.createInteraction
    cases CodexTables.validateInteraction interaction <;> rfl
  rw [validated]
  unfold createInteraction
  apply validateInteraction_refines interaction
  refine refines_eq ?_ (insertInteraction_refines holds interaction).connection
  generalize CodexTables.insertInteraction _ _ = inserted
  cases inserted <;> rfl

/-- An update of the unsent row of the outbox is the update of the item that it holds. -/
theorem bodyRefines_updateOutbox (holds : database.Holds records) (outboxId : Nat)
    {change : OutboxRow → OutboxRow} {keepsId : ∀ row, (change row).id = row.id}
    (assign : NotificationOutboxItem → NotificationOutboxItem)
    (changes : ∀ item, change (.ofItem item) = .ofItem (assign item)) :
    BodyRefines possible database (updateOutbox (isUnsent outboxId) change keepsId)
      (.ok (rowcount (fun item : NotificationOutboxItem => item.id ==
        outboxId && item.sentAt.isNone)
          records.outbox,
        { records with
          toSQLiteCodexStore := records.toSQLiteCodexStore.updateUnsent outboxId assign })) := by
  have scopes : ∀ item, isUnsent outboxId (.ofItem item) =
      (item.id == outboxId && item.sentAt.isNone) := fun item =>
    congrArg (item.id == outboxId && ·) Option.isNone_map
  have rows := updateWhere_map scopes changes records.outbox
  rw [← holds.outbox] at rows
  have count := rowcount_map scopes records.outbox
  rw [← holds.outbox] at count
  rw [← count]
  exact ⟨_, computes_statement rfl, holds.sessions, holds.interactions, rows,
    holds.outboxLast.trans (List.length_map _).symm, holds.events, holds.audit, holds.auditLast⟩

/-- `record_event_once` refines its specification on the records. -/
theorem recordEventOnce_refines (holds : database.Holds records) (eventId : String)
    (receivedAt : Instant) :
    Refines possible database (recordEventOnce eventId receivedAt)
      (.ok (records.recordEventOnce eventId receivedAt)) := by
  unfold recordEventOnce StoredRecords.recordEventOnce
  by_cases fresh : ∀ old ∈ records.events, old.eventId ≠ eventId
  · rw [if_pos fresh]
    have new : ∀ old ∈ database.events, old.eventId ≠ eventId := holds.events ▸ fresh
    obtain ⟨after, inserted, held⟩ : ∃ after,
        database.insertEventOrIgnore ⟨eventId, .instant receivedAt⟩ = (1, after) ∧
          after.Holds { records with
            events := records.events ++ [⟨eventId, .instant receivedAt⟩] } := by
      unfold Database.insertEventOrIgnore
      rw [dif_pos new]
      exact ⟨_, rfl, holds.sessions, holds.interactions, holds.outbox, holds.outboxLast,
        congrArg (· ++ [_]) holds.events, holds.audit, holds.auditLast⟩
    have body : BodyRefines possible database (Program.statement fun database =>
        .ok (database.insertEventOrIgnore ⟨eventId, .instant receivedAt⟩)) (.ok (1, _)) :=
      .of_statement (congrArg Except.ok inserted) held
    exact body.connection.map fun count => count == 1
  · rw [if_neg fresh]
    have ignored : database.insertEventOrIgnore ⟨eventId, .instant receivedAt⟩ = (0, database) :=
      dif_neg (holds.events ▸ fresh)
    have body : BodyRefines possible database (Program.statement fun database =>
        .ok (database.insertEventOrIgnore ⟨eventId, .instant receivedAt⟩)) (.ok (0, records)) :=
      .of_statement (congrArg Except.ok ignored) holds
    exact body.connection.map fun count => count == 1

/-- The foreign keys of an outbox row are satisfied exactly when the records that they
name are there. -/
theorem refers_iff (holds : database.Holds records) (sessionId interactionId : Option String) :
    database.Refers sessionId interactionId ↔
      (∀ id ∈ sessionId, (records.tables.getSession id).isSome) ∧
        ∀ id ∈ interactionId, (records.tables.getInteraction id).isSome := by
  unfold Database.Refers
  simp only [holds.mem_sessions, holds.mem_interactions, CodexTables.getSession,
    CodexTables.getInteraction, List.find?_isSome, beq_iff_eq]

/-- The values that `enqueue_outbox` inserts. -/
def outboxRow (entry : SQLiteCodexStore.OutboxEntry) : OutboxRow where
  id := 0
  sessionId := entry.sessionId
  agent := entry.agent
  sessionName := entry.sessionName
  interactionId := entry.interactionId
  notificationType := entry.notificationType
  payloadSummary := safeSummary entry.payloadSummary
  attemptCount := 0
  nextAttemptAt := .instant entry.nextAttemptAt
  sentAt := none
  lastError := none
  createdAt := .instant entry.createdAt

/-- `enqueue_outbox` refines its specification on the records, and answers with the id
of the new row. -/
theorem enqueueOutbox_refines (holds : database.Holds records)
    (entry : SQLiteCodexStore.OutboxEntry) :
    Refines possible database (enqueueOutbox entry) ((records.enqueueOutbox entry).map fun store =>
      (records.outbox.length + 1, { records with toSQLiteCodexStore := store })) := by
  unfold SQLiteCodexStore.enqueueOutbox
  by_cases refers : records.References entry
  · rw [if_pos refers]
    have known : database.Refers (outboxRow entry).sessionId (outboxRow entry).interactionId :=
      (refers_iff holds entry.sessionId entry.interactionId).mpr refers
    obtain ⟨after, inserted, held⟩ : ∃ after, database.insertOutbox (outboxRow entry) =
        .ok (records.outbox.length + 1, after) ∧ after.Holds { records with
          outbox := records.outbox ++ [records.outboxRow entry] } := by
      unfold Database.insertOutbox
      rw [if_pos known, ← holds.outboxLast]
      refine ⟨_, rfl, holds.sessions, holds.interactions, ?_, ?_, holds.events, holds.audit,
        holds.auditLast⟩
      · unfold Sequenced.insert
        dsimp only
        rw [holds.outbox, holds.outboxLast, List.map_append]
        rfl
      · unfold Sequenced.insert
        dsimp only
        rw [holds.outboxLast, List.length_append]
        rfl
    exact (BodyRefines.of_statement inserted held).connection
  · rw [if_neg refers]
    have dangling : database.insertOutbox (outboxRow entry) =
        .error (CodexTables.integrityError "FOREIGN KEY") :=
      if_neg (mt (refers_iff holds entry.sessionId entry.interactionId).mp refers)
    exact (BodyRefines.of_raise dangling).connection

/-- `record_audit` refines its specification on the records. -/
theorem recordAudit_refines (holds : database.Holds records) (eventType detailSummary : String)
    (sessionId interactionId actorId : Option String) (createdAt : Instant) :
    Refines possible database
      (recordAudit eventType detailSummary sessionId interactionId actorId createdAt)
      (records.recordAudit eventType detailSummary sessionId interactionId actorId createdAt) := by
  unfold StoredRecords.recordAudit
  by_cases refers : (∀ id ∈ sessionId, (records.tables.getSession id).isSome) ∧
      ∀ id ∈ interactionId, (records.tables.getInteraction id).isSome
  · rw [if_pos refers]
    have known : database.Refers sessionId interactionId :=
      (refers_iff holds sessionId interactionId).mpr refers
    obtain ⟨after, inserted, held⟩ : ∃ after, database.insertAudit
        ⟨0, sessionId, interactionId, eventType, actorId, safeSummary detailSummary,
          .instant createdAt⟩ = .ok (records.audit.length + 1, after) ∧
          after.Holds { records with
            audit := records.audit ++ [⟨records.audit.length + 1, sessionId, interactionId,
              eventType, actorId, safeSummary detailSummary, .instant createdAt⟩] } := by
      unfold Database.insertAudit
      rw [if_pos known, ← holds.auditLast]
      refine ⟨_, rfl, holds.sessions, holds.interactions, holds.outbox, holds.outboxLast,
        holds.events, ?_, ?_⟩
      · unfold Sequenced.insert
        dsimp only
        rw [holds.audit, holds.auditLast]
      · unfold Sequenced.insert
        dsimp only
        rw [holds.auditLast, List.length_append]
        rfl
    exact (BodyRefines.of_statement inserted held).connection
  · rw [if_neg refers]
    have dangling : database.insertAudit ⟨0, sessionId, interactionId, eventType, actorId,
        safeSummary detailSummary, .instant createdAt⟩ =
        .error (CodexTables.integrityError "FOREIGN KEY") :=
      if_neg (mt (refers_iff holds sessionId interactionId).mp refers)
    exact (BodyRefines.of_raise dangling).connection

/-- `reconcile_startup` refines its specification on the records, for every session that
it ends. -/
theorem reconcileStartup_refines (holds : database.Holds records) (now : Instant) :
    Refines possible database (reconcileStartup now)
      (.ok ((records.tables.reconcileStartup now).1,
        records.withTables (records.tables.reconcileStartup now).2)) := by
  unfold reconcileStartup
  refine BodyRefines.connection (bodyRefines_select (bodyRefines_select ?_))
  refine (bodyRefines_updateSessions holds (fun session => session.status.isActive)
    (fun session => { session with status := .interrupted, updatedAt := now }) (fun _ => rfl)
    SessionRow.isActive_ofSession fun _ => rfl).bind fun between held => ?_
  have sessionIds : ((database.sessions.filter SessionRow.isActive).map SessionRow.id) =
      (records.tables.sessions.filter fun session => session.status.isActive).map
        CodexSession.id := by
    rw [holds.sessions, List.filter_map, List.map_map]
    refine congrArg (List.map CodexSession.id) (List.filter_congr fun session _ => ?_)
    exact SessionRow.isActive_ofSession session
  have interactionIds : ((database.interactions.filter InteractionRow.isPending).map
      InteractionRow.id) =
      (records.tables.interactions.filter PendingInteraction.isPending).map
        PendingInteraction.id := by
    rw [holds.interactions, List.filter_map, List.map_map]
    refine congrArg (List.map PendingInteraction.id) (List.filter_congr fun interaction _ => ?_)
    exact InteractionRow.isPending_ofInteraction interaction
  rw [sessionIds, interactionIds]
  exact (bodyRefines_updateInteractions held PendingInteraction.isPending
    (CodexTables.close_settles (by decide) now) InteractionRow.isPending_ofInteraction
    fun _ => rfl).map fun _ => _

end Operations

end StoreProgram

namespace StoreOperation

open Program StoreProgram

/-- How an operation on tables that hold the records can end, and what it leaves: as specified, or
by a fault that leaves the tables. A query ends as its mapping of the stored rows does. An
integrity fault is a refusal to `create_interaction_and_mark_waiting`, and `update_session` may be
struck when its update is committed and it reads the row back. -/
inductive Ends (possible : PyError → Prop) (database : Database) (records : StoredRecords)
    (operation : StoreOperation) : Except PyError StoreAnswer → Database → Prop
  | returned {answer : StoreAnswer} {next : StoredRecords} {after : Database}
      (specified : operation.effect records = .ok (answer, next)) (holds : after.Holds next) :
      Ends possible database records operation (.ok answer) after
  | raised {error : PyError} (specified : operation.effect records = .error error) :
      Ends possible database records operation (.error error) database
  | struck {fault : PyError} (strikes : possible fault) :
      Ends possible database records operation (.error fault) database
  | refused {fault : PyError} {interaction : PendingInteraction} {waitingStatus : String}
      {updatedAt : Instant}
      (called : operation = .createInteractionAndMarkWaiting interaction waitingStatus updatedAt)
      (strikes : possible fault) (integrity : fault.errorType = .integrityError) :
      Ends possible database records operation (.ok (.succeeds false)) database
  | unread {fault : PyError} {sessionId : String} {assignments : SessionAssignments}
      {updatedAt : Instant} {answer : StoreAnswer} {next : StoredRecords} {after : Database}
      (called : operation = .updateSession sessionId assignments updatedAt)
      (strikes : possible fault) (specified : operation.effect records = .ok (answer, next))
      (holds : after.Holds next) :
      Ends possible database records operation (.error fault) after
  | queried {mapped : Database → Except PyError Unit} (called : operation = .query mapped) :
      Ends possible database records operation ((mapped database).map fun _ => .nothing) database

variable {possible : PyError → Prop} {database : Database} {records : StoredRecords}
  {operation : StoreOperation} {Result : Type} {answer : Result → StoreAnswer}
  {spec : Except PyError (Result × StoredRecords)}

/-- A program that refines the effect of an operation ends as the operation can. -/
theorem results_of_refines {program : StoreProgram Result}
    (refines : Refines possible database program spec)
    (specified : operation.effect records = StoredRecords.answered answer spec) :
    Always possible program database fun ended after =>
      Ends possible database records operation (ended.map answer) after := by
  unfold Refines at refines
  split at refines
  next result next =>
    obtain ⟨after, commits, holds⟩ := refines
    apply commits.mono
    rintro ended left (⟨rfl, rfl⟩ | ⟨⟨fault, strikes, rfl⟩, rfl⟩)
    · exact .returned specified holds
    · exact .struck strikes
  next error =>
    apply Always.mono refines
    rintro ended left (⟨rfl, rfl⟩ | ⟨⟨fault, strikes, rfl⟩, rfl⟩)
    · exact .raised specified
    · exact .struck strikes

/-- The program of an operation ends as its result, taken as an answer, can. -/
theorem ends_of_result {program : StoreProgram Result}
    (ends : Always possible program database fun ended after =>
      Ends possible database records operation (ended.map answer) after) :
    Always possible (answering answer program) database
      (Ends possible database records operation) :=
  Always.bind ends (fun _ _ holds => always_pure holds) fun _ _ holds => holds

/-- A program that refines the records that its operation makes ends as the operation
may. -/
theorem ends_of_refines {program : StoreProgram Result}
    (refines : Refines possible database program spec)
    (specified : operation.effect records = StoredRecords.answered answer spec) :
    Always possible (answering answer program) database
      (Ends possible database records operation) :=
  ends_of_result (results_of_refines refines specified)

/-- Marking a session as waiting leaves its id. -/
theorem markedWaiting_id (waitingStatus : SessionStatus) (updatedAt : Instant)
    (session : CodexSession) :
    ({ session with status := waitingStatus, updatedAt } : CodexSession).id = session.id := rfl

/-- Marking a session and inserting an interaction, before a violated key is taken for a refusal. -/
def markWaiting (records : StoredRecords) (interaction : PendingInteraction)
    (waitingStatus : SessionStatus) (updatedAt : Instant) : Except PyError (Bool × StoredRecords) :=
  if rowcount (activeScope interaction.sessionId) records.tables.sessions ≠ 1 then
    .ok (false, records)
  else
    ((records.tables.updateSessions (activeScope interaction.sessionId)
      (fun session => { session with status := waitingStatus, updatedAt })
      (markedWaiting_id waitingStatus updatedAt)).insertInteraction
        { interaction with payloadSummary := safeSummary interaction.payloadSummary }).map
      fun tables => (true, records.withTables tables)

/-- Marking the session and inserting the interaction in one transaction refines doing
both on the records. -/
theorem markWaiting_refines (holds : database.Holds records) (interaction : PendingInteraction)
    (waitingStatus : SessionStatus) (updatedAt : Instant) :
    Refines possible database
      (connection do
        let count ← updateSessions (isActiveSession interaction.sessionId) (fun row =>
          { row with status := waitingStatus.value, updatedAt := .instant updatedAt }) fun _ => rfl
        if count ≠ 1 then pure false
        else
          StoreProgram.insertInteraction interaction
          pure true)
      (markWaiting records interaction waitingStatus updatedAt) := by
  unfold markWaiting
  apply BodyRefines.connection
  refine (bodyRefines_updateActive holds interaction.sessionId (fun session =>
    { session with status := waitingStatus, updatedAt }) (fun _ => rfl)
    fun _ => rfl).bind fun between held => ?_
  by_cases found : rowcount (activeScope interaction.sessionId) records.tables.sessions ≠ 1
  · rw [if_pos found, if_pos found]
    rw [updateSessions_missed found] at held
    exact bodyRefines_pure held false
  · rw [if_neg found, if_neg found]
    refine bodyRefines_eq ?_ ((insertInteraction_refines held interaction).map fun _ => true)
    dsimp only [StoredRecords.withTables]
    generalize CodexTables.insertInteraction _ _ = inserted
    cases inserted <;> rfl

/-- An interaction that could not be inserted violated a key. -/
theorem insertInteraction_error {tables : CodexTables} {interaction : PendingInteraction}
    {error : PyError} (raised : tables.insertInteraction interaction = .error error) :
    error.errorType = .integrityError := by
  unfold CodexTables.insertInteraction at raised
  split at raised
  · split at raised
    · split at raised
      · cases raised
      · cases raised
        rfl
    · cases raised
      rfl
  · cases raised
    rfl

/-- `except sqlite3.IntegrityError: return False`. -/
def refusing (records : StoredRecords) :
    Except PyError (Bool × StoredRecords) → Except PyError (Bool × StoredRecords)
  | .ok outcome => .ok outcome
  | .error _ => .ok (false, records)

/-- An integrity error is a refusal, whether a key was violated or a fault raised it. -/
theorem ends_of_markWaiting {program : StoreProgram Bool}
    {attempted : Except PyError (Bool × StoredRecords)}
    {interaction : PendingInteraction} {waitingStatus : String} {updatedAt : Instant}
    (holds : database.Holds records) (refines : Refines possible database program attempted)
    (called : operation = .createInteractionAndMarkWaiting interaction waitingStatus updatedAt)
    (violates : ∀ error, attempted = .error error → error.errorType = .integrityError)
    (specified : operation.effect records =
      StoredRecords.answered .succeeds (refusing records attempted)) :
    Always possible
      (tryCatch program fun error =>
        if error.errorType = .integrityError then pure false else throw error)
      database fun ended after =>
        Ends possible database records operation (ended.map .succeeds) after := by
  have handles : ∀ fault, possible fault → Always possible
      (if fault.errorType = .integrityError then pure false else throw fault : StoreProgram Bool)
      database fun ended after =>
        Ends possible database records operation (ended.map .succeeds) after := by
    intro fault strikes
    split
    next integrity => exact always_pure (.refused called strikes integrity)
    next => exact always_throw (.struck strikes)
  rcases attempted with error | ⟨succeeded, next⟩
  · have undone : Commits possible program database (.error error) database := refines
    refine Always.tryCatch undone ?_ ?_
    · rintro result after (⟨same, _⟩ | ⟨⟨fault, _, struck⟩, _⟩)
      · cases same
      · cases struck
    · rintro other after (⟨same, rfl⟩ | ⟨⟨fault, strikes, struck⟩, rfl⟩)
      · cases same
        rw [if_pos (violates error rfl)]
        exact always_pure (.returned specified holds)
      · cases struck
        exact handles _ strikes
  · obtain ⟨left, commits, held⟩ := refines
    refine Always.tryCatch commits ?_ ?_
    · rintro result after (⟨same, rfl⟩ | ⟨⟨fault, _, struck⟩, _⟩)
      · cases same
        exact .returned specified held
      · cases struck
    · rintro other after (⟨same, _⟩ | ⟨⟨fault, strikes, struck⟩, rfl⟩)
      · cases same
      · cases struck
        exact handles _ strikes

/-- `create_interaction_and_mark_waiting` ends as its operation may: a violated key is a
refusal, not an error. -/
theorem createInteractionAndMarkWaiting_ends (holds : database.Holds records)
    (interaction : PendingInteraction) (waitingStatus : String) (updatedAt : Instant) :
    Always possible
      (StoreProgram.createInteractionAndMarkWaiting interaction waitingStatus updatedAt) database
      fun ended after => Ends possible database records
        (.createInteractionAndMarkWaiting interaction waitingStatus updatedAt)
        (ended.map .succeeds) after := by
  unfold StoreProgram.createInteractionAndMarkWaiting sessionStatus
  rcases parsed : SessionStatus.ofValue? waitingStatus with none | waiting
  · have specified : effect records
        (.createInteractionAndMarkWaiting interaction waitingStatus updatedAt) =
        StoredRecords.answered .succeeds
          (.error (valueError (waitingStatus ++ " is not a valid SessionStatus"))) := by
      simp only [effect, SessionStatus.parse, parsed]
      rfl
    refine results_of_refines ?_ specified
    exact Commits.bind_error commits_throw
  · have specified : effect records
        (.createInteractionAndMarkWaiting interaction waitingStatus updatedAt) =
        StoredRecords.answered .succeeds (records.onTables
          (records.tables.createInteractionAndMarkWaiting interaction waiting updatedAt)) := by
      simp only [effect, SessionStatus.parse, parsed]
      rfl
    unfold CodexTables.createInteractionAndMarkWaiting at specified
    unfold convert
    rw [pure_bind]
    by_cases other : waiting ≠ .waitingForApproval ∧ waiting ≠ .waitingForInput
    · rw [if_pos other] at specified ⊢
      refine results_of_refines ?_ specified
      exact commits_throw
    · rw [if_neg other] at specified ⊢
      unfold StoreProgram.validateInteraction
      rcases validated : CodexTables.validateInteraction interaction with error | ⟨⟩
      · simp only [validated] at specified ⊢
        refine results_of_refines ?_ specified
        exact Commits.bind_error commits_throw
      · simp only [validated] at specified ⊢
        refine ends_of_markWaiting holds (markWaiting_refines holds interaction waiting updatedAt)
          rfl ?_ ?_
        · intro error raised
          unfold markWaiting at raised
          split at raised
          next => cases raised
          next =>
            generalize inserts : CodexTables.insertInteraction _ _ = inserted at raised
            rcases inserted with violated | tables
            · cases raised
              exact insertInteraction_error inserts
            · cases raised
        · rw [specified]
          apply congrArg (StoredRecords.answered .succeeds)
          unfold markWaiting
          split
          next => rfl
          next =>
            generalize CodexTables.insertInteraction _ _ = inserted
            cases inserted <;> rfl

/-- `get_session` reads the record of the session and leaves all records. -/
theorem getSession_refines (holds : database.Holds records) (sessionId : String) :
    Refines possible database (StoreProgram.getSession sessionId)
      (.ok (records.tables.getSession sessionId, records)) := by
  refine ⟨database, Commits.returns (Computes.commits
    ((computes_select _).bind (computes_select _))) ?_, holds⟩
  rw [holds.findSession]
  rcases records.tables.getSession sessionId with none | session
  · rfl
  · dsimp only [Option.map_some]
    rw [SessionRow.toSession_ofSession]

/-- Assigning to the row of a session is assigning to the session. -/
theorem assign_ofSession (assignments : SessionAssignments) (updatedAt : Instant)
    (session : CodexSession) : assignments.apply updatedAt (.ofSession session) =
      .ofSession (assignments.assign updatedAt session) := by
  unfold SessionAssignments.apply SessionAssignments.assign SessionRow.ofSession
  cases assignments.status <;> rfl

/-- `update_session` ends as its operation may, also where the row it wrote cannot be
read back. -/
theorem updateSession_ends (holds : database.Holds records) (sessionId : String)
    (assignments : SessionAssignments) (updatedAt : Instant) :
    Always possible (StoreProgram.updateSession sessionId assignments updatedAt) database
      fun ended after => Ends possible database records
        (.updateSession sessionId assignments updatedAt) (ended.map .session) after := by
  have specified : effect records (.updateSession sessionId assignments updatedAt) =
      StoredRecords.answered .session
        (.ok (records.updateSession sessionId assignments updatedAt)) :=
    rfl
  unfold StoreProgram.updateSession
  unfold StoredRecords.updateSession at specified
  by_cases nothing : assignments.isEmpty
  · rw [if_pos nothing] at specified ⊢
    exact results_of_refines (getSession_refines holds sessionId) specified
  · rw [if_neg nothing] at specified ⊢
    have updates : BodyRefines possible database
        (updateSessions (fun row => row.id == sessionId) (assignments.apply updatedAt) fun _ => rfl)
        _ :=
      bodyRefines_updateSessions holds (fun session => session.id == sessionId)
        (assignments.assign updatedAt) (fun _ => rfl) (fun _ => rfl)
        (assign_ofSession assignments updatedAt)
    obtain ⟨between, commits, held⟩ := updates.connection
    refine Always.bind commits ?_ ?_
    · rintro count left (⟨_, rfl⟩ | ⟨⟨fault, _, struck⟩, _⟩)
      · obtain ⟨after, reads, kept⟩ := @getSession_refines possible _ _ held sessionId
        apply reads.mono
        rintro ended read (⟨rfl, rfl⟩ | ⟨⟨fault, strikes, rfl⟩, rfl⟩)
        · exact .returned specified kept
        · exact .unread rfl strikes specified held
      · cases struck
    · rintro error left (⟨same, _⟩ | ⟨⟨fault, strikes, struck⟩, rfl⟩)
      · cases same
      · cases struck
        exact .struck strikes

/-- A query gives what its mapping makes of the rows, or the fault that strikes it. -/
theorem query_ends (mapped : Database → Except PyError Unit) :
    Always possible (StoreOperation.run (.query mapped)) database
      (Ends possible database records (.query mapped)) := by
  refine Always.bind (Computes.commits ((computes_select _).bind (computes_select mapped))) ?_ ?_
  · rintro result left (⟨same, stays⟩ | ⟨⟨_, _, struck⟩, _⟩)
    · rw [stays]
      have ends : Ends possible database records (.query mapped)
          ((mapped database).map fun _ => .nothing) database := .queried rfl
      rw [← Except.ok.inj same] at ends
      cases result with
      | ok => exact always_pure ends
      | error => exact always_throw ends
    · cases struck
  · rintro error left (⟨same, _⟩ | ⟨⟨fault, strikes, struck⟩, rfl⟩)
    · cases same
    · cases struck
      exact .struck strikes

/-- Every operation ends as it does on the records. -/
theorem performs (operation : StoreOperation) (holds : database.Holds records) :
    Always possible operation.run database (Ends possible database records operation) := by
  cases operation with
  | createSession session =>
      apply ends_of_refines (createSession_refines holds session)
      simp only [effect, StoredRecords.onTables]
      generalize CodexTables.createSession _ _ = created
      cases created <;> rfl
  | updateSession sessionId assignments updatedAt =>
      exact ends_of_result (updateSession_ends holds sessionId assignments updatedAt)
  | updateSessionIfStatus sessionId expectedStatuses status assignments updatedAt =>
      exact ends_of_refines (updateSessionIfStatus_refines holds _ _ _ _ _) rfl
  | createInteraction interaction => exact ends_of_refines (createInteraction_refines holds _) rfl
  | createInteractionAndMarkWaiting interaction waitingStatus updatedAt =>
      exact ends_of_result (createInteractionAndMarkWaiting_ends holds _ _ _)
  | attachLarkMessageId interactionId messageId =>
      exact ends_of_refines (attachLarkMessageId_refines holds _ _) rfl
  | resolveInteraction interactionId decision actorId resolvedAt =>
      exact ends_of_refines (resolveInteraction_refines holds _ _ _ _) rfl
  | resolveInteractionAndRefreshSession interactionId decision actorId updatedAt status =>
      exact ends_of_refines (resolveInteractionAndRefreshSession_refines holds _ _ _ _ _) rfl
  | cancelInteractionAndRefreshSession interactionId updatedAt =>
      exact ends_of_refines (cancelInteractionAndRefreshSession_refines holds _ _) rfl
  | claimSessionTerminal sessionId terminalStatus summary pendingStatus updatedAt =>
      exact ends_of_refines (claimSessionTerminal_refines holds _ _ _ _ _) rfl
  | finishInteractiveTurn sessionId turnId summary updatedAt =>
      exact ends_of_refines (finishInteractiveTurn_refines holds _ _ _ _) rfl
  | expireInteraction interactionId resolvedAt =>
      exact ends_of_refines (expireInteraction_refines holds _ _) rfl
  | cancelPendingInteractions sessionId status resolvedAt =>
      exact ends_of_refines (cancelPendingInteractions_refines holds _ _ _) rfl
  | recordEventOnce eventId receivedAt =>
      exact ends_of_refines (recordEventOnce_refines holds _ _) rfl
  | enqueueOutbox entry => exact ends_of_refines (enqueueOutbox_refines holds _) rfl
  | markOutboxSent outboxId sentAt =>
      refine ends_of_refines ((bodyRefines_updateOutbox holds outboxId
        (fun item => { item with sentAt := some sentAt, lastError := none })
        fun _ => rfl).connection.map fun count => count == 1) ?_
      rfl
  | recordOutboxFailure outboxId error nextAttemptAt =>
      refine ends_of_refines ((bodyRefines_updateOutbox holds outboxId
        (fun item => { item with
          attemptCount := item.attemptCount + 1
          nextAttemptAt
          lastError := some (safeSummary error) })
        fun _ => rfl).connection.map fun count => count == 1) ?_
      rfl
  | recordAudit eventType detailSummary sessionId interactionId actorId createdAt =>
      exact ends_of_refines (recordAudit_refines holds _ _ _ _ _ _) rfl
  | reconcileStartup now => exact ends_of_refines (reconcileStartup_refines holds now) rfl
  | query mapped => exact query_ends mapped

/-- Whether an operation reports success does not change what it leaves. -/
theorem perform_leaves (operation : StoreOperation) (setting : Setting Database PyError) :
    (operation.perform.outcome setting).2 = (operation.run.outcome setting).2 := by
  unfold perform
  rw [outcome_bind]
  rcases operation.run.outcome setting with ⟨error | answer, after⟩
  · rfl
  · rfl

/-- The records after an operation; one that raises leaves them. -/
def applied (records : StoredRecords) (operation : StoreOperation) : StoredRecords :=
  match operation.effect records with
  | .ok (_, next) => next
  | .error _ => records

/-- What the operations make of the tables, each with the faults that strike it. -/
def runAll (database : Database) (calls : List (StoreOperation × List (Option PyError))) :
    Database :=
  calls.foldl (fun database (operation, faults) =>
    (operation.perform.outcome ⟨database, faults⟩).2.data) database

/-- An operation takes effect on the records, unless a fault is possible. -/
theorem Ends.left {ended : Except PyError StoreAnswer} {after : Database}
    (ends : Ends possible database records operation ended after) (holds : database.Holds records) :
    (∃ fault, possible fault) ∧ after.Holds records ∨ after.Holds (applied records operation) := by
  cases ends with
  | returned specified held =>
      right
      unfold applied
      rw [specified]
      exact held
  | unread called strikes specified held =>
      right
      unfold applied
      rw [specified]
      exact held
  | raised specified =>
      right
      unfold applied
      rw [specified]
      exact holds
  | queried called =>
      right
      rw [called]
      exact holds
  | struck strikes => exact Or.inl ⟨⟨_, strikes⟩, holds⟩
  | refused called strikes => exact Or.inl ⟨⟨_, strikes⟩, holds⟩

/-- What an operation leaves of tables that hold the records. -/
theorem outcome_holds (operation : StoreOperation) (holds : database.Holds records)
    (faults : List (Option PyError)) :
    (∃ fault, some fault ∈ faults) ∧
        (operation.perform.outcome ⟨database, faults⟩).2.data.Holds records ∨
      (operation.perform.outcome ⟨database, faults⟩).2.data.Holds (applied records operation) := by
  rw [operation.perform_leaves]
  exact (operation.performs holds ⟨database, faults⟩ rfl fun _ strikes => strikes).1.left holds

end StoreOperation

/-- An operation on tables that hold records ends as it does on the records, with the same answer,
unless a fault strikes; then the tables are as before, but for an `update_session` that cannot read
its row back. -/
theorem operation_refines (operation : StoreOperation) (setting after : Setting Database PyError)
    (ended : Except PyError StoreAnswer) (records : StoredRecords)
    (holds : setting.data.Holds records) (ran : operation.run.outcome setting = (ended, after)) :
    operation.Ends (fun fault => some fault ∈ setting.faults) setting.data records ended
      after.data := by
  have performs := (operation.performs holds setting rfl fun _ => id).1
  rw [ran] at performs
  exact performs

/-- An event that is recorded twice is refused the second time. -/
theorem repeated_event_refused :
    StoreOperation.Ends (fun fault => some fault ∈ [])
      (StoreOperation.runAll .empty [(.recordEventOnce "hook:1" 0, [])])
      { StoredRecords.empty with events := [⟨"hook:1", .instant 0⟩] } (.recordEventOnce "hook:1" 5)
      (.ok (.succeeds false)) (StoreOperation.runAll .empty [(.recordEventOnce "hook:1" 0, [])]) :=
  operation_refines _ ⟨_, []⟩ ⟨_, []⟩ _ _ ⟨rfl, rfl, rfl, rfl, rfl, rfl, rfl⟩ rfl

/-- Whatever faults strike a run of operations, its tables hold what those operations that took
effect make of the records: all that no fault strikes, and maybe others. -/
theorem run_refines (calls : List (StoreOperation × List (Option PyError))) :
    ∃ taken : List StoreOperation, taken.Sublist (calls.map Prod.fst) ∧
      ((calls.filter fun call => call.2.all Option.isNone).map Prod.fst).Sublist taken ∧
      (StoreOperation.runAll .empty calls).Holds (taken.foldl StoreOperation.applied .empty) := by
  induction calls using List.reverseRecOn with
  | nil => exact ⟨[], List.nil_sublist _, List.nil_sublist _, Database.holds_empty⟩
  | append_singleton calls call ih =>
      obtain ⟨taken, among, unstruck, holds⟩ := ih
      obtain ⟨operation, faults⟩ := call
      unfold StoreOperation.runAll
      rw [List.foldl_append, List.map_append, List.filter_append, List.map_append]
      rcases operation.outcome_holds holds faults with ⟨⟨fault, struck⟩, unchanged⟩ | changed
      · refine ⟨taken, among.trans (List.sublist_append_left _ _), ?_, unchanged⟩
        have faulty : faults.all Option.isNone = false :=
          List.all_eq_false.mpr ⟨_, struck, Bool.false_ne_true⟩
        simp only [List.filter_singleton, faulty, cond_false, List.map_nil, List.append_nil]
        exact unstruck
      · refine ⟨taken ++ [operation], among.append (List.Sublist.refl _), unstruck.append ?_, ?_⟩
        · exact List.filter_sublist.map Prod.fst
        · rw [List.foldl_append]
          exact changed

end LarkBot
