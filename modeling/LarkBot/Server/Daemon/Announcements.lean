import LarkBot.Codex.Orchestrator.Footprint
import LarkBot.Codex.Orchestrator.Journaling
import LarkBot.Lark.Render

/-! # The rows that announce an interaction

An outbox row announces an interaction when its message asks for an answer. The code of the
orchestrator adds such a row only when it stored the interaction as pending just before, with
no suspension between (`LarkBot.Runtime.runs_announces`): in every database that a segment
commits, the interactions that its new rows announce are pending.
-/

namespace LarkBot

open Foundation

/-- The row announces this interaction. -/
def NotificationOutboxItem.Announces (item : NotificationOutboxItem) (interactionId : String) :
    Prop :=
  requestsInteraction item.notificationType.toList ∧ item.interactionId = some interactionId

instance (item : NotificationOutboxItem) (interactionId : String) :
    Decidable (item.Announces interactionId) :=
  inferInstanceAs (Decidable (_ ∧ _))

/-- The interaction is stored and pending. -/
def CodexTables.IsPending (tables : CodexTables) (interactionId : String) : Prop :=
  ∃ row ∈ tables.interactions, row.id = interactionId ∧ row.isPending

instance (tables : CodexTables) (interactionId : String) :
    Decidable (tables.IsPending interactionId) :=
  inferInstanceAs (Decidable (∃ row ∈ _, _))

/-- An interaction that was just inserted is pending. -/
theorem CodexTables.isPending_of_created {tables after : CodexTables}
    {interaction : PendingInteraction} {status : SessionStatus} {updatedAt : Instant}
    (pending : interaction.isPending)
    (done : tables.createInteractionAndMarkWaiting interaction status updatedAt =
      .ok (true, after)) : after.IsPending interaction.id := by
  obtain ⟨_, _, _, _, _, interactions⟩ := createInteractionAndMarkWaiting_true done
  refine ⟨{ interaction with payloadSummary := safeSummary interaction.payloadSummary }, ?_, rfl,
    pending⟩
  rw [interactions]
  exact List.mem_append_right _ (List.mem_singleton_self _)

namespace SQLiteCodexStore

/-- The database has new outbox rows, all unsent and numbered on, which satisfy `allowed`. -/
def Extends (store database : SQLiteCodexStore) (allowed : NotificationOutboxItem → Prop) : Prop :=
  ∃ items, database.outbox = store.outbox ++ items ∧
    (∀ item ∈ items, item.sentAt = none ∧ allowed item) ∧
    items.map NotificationOutboxItem.id = List.range' (store.outbox.length + 1) items.length

/-- No new row announces an interaction. -/
def Quiet (store database : SQLiteCodexStore) : Prop :=
  store.Extends database fun item => ∀ interactionId, ¬ item.Announces interactionId

/-- The interactions that new rows announce are pending. -/
def Announcing (store database : SQLiteCodexStore) : Prop :=
  store.Extends database fun item => ∀ interactionId, item.Announces interactionId →
    database.tables.IsPending interactionId

variable {store middle database : SQLiteCodexStore} {allowed weaker : NotificationOutboxItem → Prop}

/-- A database extends itself by no rows. -/
theorem Extends.refl (store : SQLiteCodexStore) (allowed : NotificationOutboxItem → Prop) :
    store.Extends store allowed :=
  ⟨[], (List.append_nil _).symm, fun _ absent => absurd absent List.not_mem_nil, rfl⟩

/-- New rows that satisfy a condition satisfy every weaker one. -/
theorem Extends.mono (extended : store.Extends database allowed)
    (implies : ∀ item, allowed item → weaker item) : store.Extends database weaker := by
  obtain ⟨items, outbox, rows, numbered⟩ := extended
  exact ⟨items, outbox, fun item member => (rows item member).imp_right (implies item), numbered⟩

/-- New rows come after new rows, numbered on. -/
theorem Extends.trans (first : store.Extends middle allowed)
    (second : middle.Extends database allowed) : store.Extends database allowed := by
  obtain ⟨items, outbox, rows, numbered⟩ := first
  obtain ⟨more, grown, added, following⟩ := second
  refine ⟨items ++ more, ?_, ?_, ?_⟩
  · rw [grown, outbox, List.append_assoc]
  · intro item member
    rcases List.mem_append.mp member with old | new
    · exact rows item old
    · exact added item new
  · rw [outbox, List.length_append] at following
    rw [List.map_append, numbered, following, List.length_append, ← List.range'_append_1]
    congr 2
    omega

/-- A row that is allowed extends the outbox. -/
theorem Extends.enqueue {entry : OutboxEntry} (enqueued : store.enqueueOutbox entry = .ok database)
    (permitted : allowed (store.outboxRow entry)) : store.Extends database allowed := by
  obtain rfl := enqueueOutbox_ok enqueued
  refine ⟨[store.outboxRow entry], rfl, fun item member => ?_, rfl⟩
  obtain rfl := List.mem_singleton.mp member
  exact ⟨rfl, permitted⟩

/-- A database announces nothing over itself. -/
theorem Quiet.refl (store : SQLiteCodexStore) : store.Quiet store := Extends.refl store _

/-- Two steps that announce nothing announce nothing together. -/
theorem Quiet.trans (first : store.Quiet middle) (second : middle.Quiet database) :
    store.Quiet database :=
  Extends.trans first second

/-- What announces nothing announces only what is pending. -/
theorem Quiet.announcing (quiet : store.Quiet database) : store.Announcing database :=
  quiet.mono fun _ silent interactionId announces => (silent interactionId announces).elim

/-- A quiet step before one that announces leaves what the latter announces. -/
theorem Quiet.trans_announcing (first : store.Quiet middle) (second : middle.Announcing database) :
    store.Announcing database :=
  Extends.trans (first.mono fun _ silent interactionId announces =>
    (silent interactionId announces).elim) second

end SQLiteCodexStore

/-- The code committed databases that are all related to the one it found, the last of them
included. -/
structure CodexOrchestrator.Commits (relation : SQLiteCodexStore → SQLiteCodexStore → Prop)
    (before after : CodexOrchestrator) : Prop where
  final : relation before.store after.store
  logged : ∃ commits, after.commits = before.commits ++ commits ∧
    ∀ database ∈ commits, relation before.store database

namespace CodexOrchestrator

/-- The code announced nothing. -/
abbrev Quiet : CodexOrchestrator → CodexOrchestrator → Prop := Commits SQLiteCodexStore.Quiet

/-- The code announced interactions that are pending. -/
abbrev Announcing : CodexOrchestrator → CodexOrchestrator → Prop :=
  Commits SQLiteCodexStore.Announcing

variable {self middle after : CodexOrchestrator}

instance : Std.Refl Quiet where
  refl _ := ⟨.refl _, [], (List.append_nil _).symm, fun _ absent => absurd absent List.not_mem_nil⟩

/-- Quiet code before code that commits databases in a relation to its own. -/
theorem Quiet.before {relation : SQLiteCodexStore → SQLiteCodexStore → Prop}
    (quiet : self.Quiet middle) (commits : middle.Commits relation after)
    (included : ∀ store database, store.Quiet database → relation store database)
    (composed : ∀ store between database, store.Quiet between → relation between database →
      relation store database) : self.Commits relation after := by
  obtain ⟨earlier, first, kept⟩ := quiet.logged
  obtain ⟨later, second, related⟩ := commits.logged
  refine ⟨composed _ _ _ quiet.final commits.final, earlier ++ later, ?_, ?_⟩
  · rw [second, first, List.append_assoc]
  · intro database member
    rcases List.mem_append.mp member with old | new
    · exact included _ _ (kept database old)
    · exact composed _ _ _ quiet.final (related database new)

instance : IsTrans CodexOrchestrator Quiet where
  trans _ _ _ first second :=
    first.before second (fun _ _ quiet => quiet) fun _ _ _ => SQLiteCodexStore.Quiet.trans

/-- Quiet code before code that announces leaves what the latter announces. -/
theorem Quiet.trans_announcing (first : self.Quiet middle) (second : middle.Announcing after) :
    self.Announcing after :=
  first.before second (fun _ _ => SQLiteCodexStore.Quiet.announcing)
    fun _ _ _ => SQLiteCodexStore.Quiet.trans_announcing

/-- Code that announces nothing announces only what is pending. -/
theorem Quiet.announcing (quiet : self.Quiet after) : self.Announcing after := by
  obtain ⟨commits, logged, related⟩ := quiet.logged
  exact ⟨quiet.final.announcing, commits, logged, fun database member =>
    (related database member).announcing⟩

/-- Code that leaves the database and its log alone. -/
theorem Quiet.of_eq (store : after.store = self.store) (commits : after.commits = self.commits) :
    self.Quiet after := by
  refine ⟨?_, [], ?_, fun _ absent => absurd absent List.not_mem_nil⟩
  · rw [store]
    exact .refl _
  · rw [commits, List.append_nil]

end CodexOrchestrator

section Statements

variable {α : Type} (environment : Environment)

/-- A transaction on the tables announces nothing. -/
theorem CodexOrchestrator.Quiet.of_tables {self after : CodexOrchestrator} {tables : CodexTables}
    (store : after.store = { self.store with tables })
    (commits : after.commits = self.commits ++ [{ self.store with tables }]) :
    self.Quiet after := by
  have kept : self.store.Quiet { self.store with tables } :=
    ⟨[], (List.append_nil _).symm, fun _ absent => absurd absent List.not_mem_nil, rfl⟩
  exact ⟨store ▸ kept, _, commits, fun database member => List.mem_singleton.mp member ▸ kept⟩

variable {environment} {eventType : OrchestratorEventType} {sessionId summary : String}
  {status : SessionStatus} {interactionId : Option String} {self : CodexOrchestrator}

/-- The code announced interactions that are pending, and nothing where it raised. -/
def AnnouncesPending {α : Type} (self after : CodexOrchestrator) (outcome : Except PyError α) :
    Prop :=
  self.Announcing after ∧ ∀ error, outcome = .error error → self.Quiet after

/-- Code that announces nothing announces only what is pending, however it ended. -/
theorem AnnouncesPending.of_quiet {self after : CodexOrchestrator} {outcome : Except PyError α}
    (quiet : self.Quiet after) : AnnouncesPending self after outcome :=
  ⟨quiet.announcing, fun _ _ => quiet⟩

/-- Code that follows quiet code. -/
theorem AnnouncesPending.after {self middle : CodexOrchestrator} {code : Code α}
    (quiet : self.Quiet middle) (announced : code.Ends middle (AnnouncesPending middle)) :
    code.Ends middle (AnnouncesPending self) :=
  ⟨quiet.trans_announcing announced.1, fun error raised =>
    IsTrans.trans _ _ _ quiet (announced.2 error raised)⟩

/-- An event adds a row of its type, about its interaction, or raises and adds none. -/
theorem emit_extends {relation : SQLiteCodexStore → SQLiteCodexStore → Prop}
    (unchanged : ∀ store, relation store store)
    (added : ∀ entry database, entry.notificationType = eventType.notification →
      entry.interactionId = interactionId → self.store.enqueueOutbox entry = .ok database →
      relation self.store database) :
    (emit environment eventType sessionId status summary interactionId).Ends self
      fun after outcome => self.Commits relation after ∧
        ∀ error, outcome = .error error → self.Quiet after := by
  unfold emit
  simp only [ends_utcNow_bind, ends_getSession_bind, ends_enqueueOutbox_bind, Code.ends_modify]
  split
  next database enqueued =>
    have related := added _ database rfl rfl enqueued
    have logged : ∀ committed ∈ [database], relation self.store committed :=
      fun committed member => List.mem_singleton.mp member ▸ related
    split
    · exact ⟨⟨related, [database], rfl, logged⟩, fun _ raised => by cases raised⟩
    · exact ⟨⟨related, [database], rfl, logged⟩, fun _ raised => by cases raised⟩
  next =>
    exact ⟨⟨unchanged _, [], (List.append_nil _).symm, fun _ absent => by cases absent⟩,
      fun _ _ => .of_eq rfl rfl⟩

/-- Every other event announces nothing. -/
theorem emit_quiet (other : eventType ≠ .interactionRequested) :
    (emit environment eventType sessionId status summary interactionId).Leaves
      CodexOrchestrator.Quiet := by
  intro self
  refine (emit_extends (fun _ => .refl _) fun entry database named _ enqueued => ?_).1
  have silent : requestsInteraction eventType.notification.toList = false := by
    cases eventType <;> first | exact absurd rfl other | decide
  refine .enqueue enqueued fun interactionId announces => ?_
  have requests : requestsInteraction entry.notificationType.toList = true := announces.1
  rw [named, silent] at requests
  cases requests

instance : Indifferent CodexOrchestrator.Quiet where
  tables _ _ := .of_tables rfl rfl
  emit _ _ _ _ _ _ other := emit_quiet other
  modify store commits _ := .of_eq store commits

/-- An event about a pending interaction announces a pending interaction. -/
theorem emit_announcing (pending : ∀ id, interactionId = some id → self.store.tables.IsPending id) :
    (emit environment eventType sessionId status summary interactionId).Ends self
      (AnnouncesPending self) := by
  refine emit_extends (fun store => (SQLiteCodexStore.Quiet.refl store).announcing)
    fun entry database _ about enqueued => ?_
  refine .enqueue enqueued fun id announces => ?_
  rw [SQLiteCodexStore.enqueueOutbox_tables enqueued]
  exact pending id (about.symm.trans announces.2)

end Statements

section Handlers

variable {environment : Environment}

/-- Taking the text of a turn announces nothing. -/
theorem takeFinalText_quiet (threadId : String) (turnId : Option String) :
    (takeFinalText threadId turnId).Leaves CodexOrchestrator.Quiet := by
  intro self
  unfold takeFinalText
  split
  next => exact .of_eq rfl rfl
  next => exact .of_eq rfl rfl

/-- The end of a turn announces no interaction. -/
theorem recordTurnCompleted_quiet (params : JsonObject) :
    (recordTurnCompleted environment params).Leaves CodexOrchestrator.Quiet := by
  unfold recordTurnCompleted
  split
  next threadId turn _ _ =>
    refine .bind .self fun self => ?_
    split
    next => exact .pure _
    next session _ =>
      refine .bind (.lift _) fun ended => ?_
      split
      next => exact .pure _
      next status =>
        refine .bind (takeFinalText_quiet threadId _) fun remembered => ?_
        split
        · exact completeInteractiveTurn_leaves _ _ status _
        · exact completeSession_leaves _ status _
  next => exact .pure _

/-- No notification announces an interaction. -/
theorem processNotification_quiet (notification : ServerNotification) :
    (processNotification environment notification).Leaves CodexOrchestrator.Quiet := by
  unfold processNotification
  split
  · exact requestResolved_leaves notification.params
  · split
    · refine .bind (fun self => ?_) fun _ => .pure _
      obtain ⟨store, commits⟩ := rememberFinalText_writes notification.params self
      exact .of_eq store commits
    · split
      · exact recordTurnStarted_leaves notification.params
      · split
        · exact recordTurnCompleted_quiet notification.params
        · exact .pure _

/-- The interaction that a request announces is pending. -/
theorem processServerRequest_announced (request : ServerRequest) (sessionId : Option String)
    (responder : Option Responder) (self : CodexOrchestrator) :
    (processServerRequest environment request sessionId responder).Ends self
      (AnnouncesPending self) := by
  unfold processServerRequest
  split
  next => exact .of_quiet (.of_eq rfl rfl)
  next kind _ =>
    simp only [Code.ends_self_bind]
    split
    next => exact .of_quiet (.of_eq rfl rfl)
    next session _ =>
      split_ifs
      · exact .of_quiet (.of_eq rfl rfl)
      · exact .of_quiet (.of_eq rfl rfl)
      · simp only [ends_utcNow_bind, ends_newId_bind, ends_storeOrRaise_bind]
        split
        next created tables done =>
          cases created with
          | false => exact .of_quiet (.of_tables rfl rfl)
          | true =>
              simp only [↓reduceIte, Code.ends_modify_bind]
              refine AnnouncesPending.after (.of_tables rfl rfl) ?_
              refine (emit_announcing fun id same => ?_).bind (fun after _ announced => ?_)
                fun after error announced => ?_
              · cases same
                exact CodexTables.isPending_of_created rfl done
              · exact ⟨announced.1, fun _ raised => by cases raised⟩
              · exact ⟨announced.1, fun _ _ => announced.2 error rfl⟩
        next => exact .of_quiet (.of_eq rfl rfl)

/-- A consumer that fails after its request raised announces nothing. -/
theorem consumeRequest_announcing (request : ServerRequest) (self : CodexOrchestrator) :
    (consumeRequest environment request).Ends self fun after _ => self.Announcing after := by
  have consumed : (consuming environment (processServerRequest environment request none none)).Ends
      self fun after _ => self.Announcing after := by
    unfold consuming
    rw [Code.ends_catchAll]
    apply (processServerRequest_announced request none none self).mono
    intro after outcome announced
    cases outcome with
    | ok => exact announced.1
    | error error =>
        have failed : self.Quiet after := announced.2 error rfl
        exact (IsTrans.trans _ _ _ failed (consumerHandles_leaves error after)).announcing
  unfold consumeRequest
  refine consumed.bind (fun after progress announcing => ?_) fun _ _ announcing => announcing
  split
  next => exact announcing
  next => exact announcing

/-- Every call of the orchestrator announces only interactions that are pending. -/
theorem handle_announcing (call : ApiCall) (self : CodexOrchestrator) :
    (handle environment call).Ends self fun after _ => self.Announcing after := by
  cases call with
  | processServerRequest request sessionId =>
      exact (processServerRequest_announced request _ _ self).1
  | consumeRequest request => exact consumeRequest_announcing request self
  | _ =>
      apply CodexOrchestrator.Quiet.announcing
      exact handle_leaves _ nofun (fun notification _ => processNotification_quiet notification)
        self

end Handlers

section Events

variable {environment : Environment}

/-- What an event announces is pending, in every database that its code commits. -/
theorem Runtime.runs_announces {runtime base : Runtime} {event : Event} {task : Nat}
    {code : Code Progress} (runs : runtime.Runs environment event task code base) :
    code.Ends runtime.orchestrator fun after _ => runtime.orchestrator.Announcing after := by
  cases runs with
  | call call => exact handle_announcing call runtime.orchestrator
  | reply task reply suspended =>
      exact CodexOrchestrator.Quiet.announcing (resume_leaves _ reply runtime.orchestrator)
  | proceed task pass =>
      exact CodexOrchestrator.Quiet.announcing (expireNext_leaves pass runtime.orchestrator)

/-- A restart announces nothing. -/
theorem start_quiet : (start environment).Leaves CodexOrchestrator.Quiet := start_leaves

end Events

end LarkBot
