import LarkBot.Server.Daemon.Announcements
import LarkBot.Server.Daemon.Process

/-! # The outbox worker

`_outbox_worker` lists the rows that are due, renders each, hands its message to the Lark client
and marks it as sent, while the orchestrator runs. It reads the interaction of a row only to
choose the texts of the message: nothing takes back the row of an interaction that was settled
meanwhile (`LarkBot.settled_interaction_announced`). Interactions that are announced before they
are settled are announced as long as they are pending only
(`LarkBot.announced_while_pending`).
-/

namespace LarkBot

open Foundation

/-- The settings that the worker reads; the poll interval is in microseconds. -/
structure OutboxSettings where
  messageFormat : MessageFormat
  outboxPoll : Nat

/-- `DaemonRuntime._render`. -/
def renderItem (settings : OutboxSettings) (store : SQLiteCodexStore)
    (item : NotificationOutboxItem) : Except ErrorType RenderedMessage :=
  let interaction :=
    if requestsInteraction item.notificationType.toList then
      (item.interactionId.filter (· ≠ "")).bind store.tables.getInteraction
    else none
  match (item.sessionId.filter (· ≠ "")).bind fun sessionId => store.tables.getSession
    sessionId with
  | none => renderOutboxNotification item settings.messageFormat interaction none
  | some session =>
      let agent := match item.agent.filter (· ≠ "") with
        | none => some AgentKind.codex
        | some agent => AgentKind.ofValue? agent
      match agent with
      | none => .error (.other "ValidationError")
      | some agent =>
          if named : session.id ≠ "" ∧ session.name ≠ "" then
            renderOutboxNotification item settings.messageFormat interaction
              (some ⟨session.id, session.name, agent, named.1, named.2⟩)
          else .error (.other "ValidationError")

/-- Where the worker is. -/
inductive OutboxPhase where
  /-- In `events.get()`. -/
  | waiting
  /-- At the head of its `for` loop, in control. -/
  | looping
  /-- In `send_rendered`, on another thread. -/
  | sending (item : NotificationOutboxItem)
  /-- Between `attach_lark_message_id` and `mark_outbox_sent`, in control. -/
  | marking (item : NotificationOutboxItem)

def OutboxPhase.item? : OutboxPhase → Option NotificationOutboxItem
  | .sending item => some item
  | .marking item => some item
  | _ => none

/-- The worker has control: no other code runs before it suspends. -/
def OutboxPhase.inControl : OutboxPhase → Bool
  | .looping => true
  | .marking _ => true
  | _ => false

/-- The worker, with the rows of its list that are still to be taken. -/
structure OutboxWorker where
  phase : OutboxPhase
  due : List NotificationOutboxItem

/-- The rows that the worker has still to mark. -/
def OutboxWorker.queue (worker : OutboxWorker) : List NotificationOutboxItem :=
  worker.phase.item?.toList ++ worker.due

/-- A row that was taken for sending: its message was handed to the Lark client, while its
interaction had this status. -/
structure TakenRow where
  item : NotificationOutboxItem
  message : RenderedMessage
  status : Option InteractionStatus

structure DaemonRuntime where
  daemon : Daemon
  worker : OutboxWorker
  taken : List TakenRow

inductive DaemonRuntimeEvent where
  /-- Anything but the worker: the orchestrator, notifications of the daemon, a restart. -/
  | daemon (event : DaemonEvent)
  /-- `events.get()` returns or times out, and the worker lists what is due. -/
  | poll (now : Instant)
  /-- The next iteration of the `for` loop, up to its suspension, or the end of the loop. -/
  | take (now : Instant)
  /-- `send_rendered` returns the id of the message, which is attached to the interaction. -/
  | returned (messageId : String)
  | mark (now : Instant)
  /-- `send_rendered`, or what follows it, raises. -/
  | failed (errorName : String) (now : Instant)

/-- The writes of the worker itself. -/
def DaemonEvent.isWorkerWrite : DaemonEvent → Bool
  | .markOutboxSent _ _ => true
  | .recordOutboxFailure _ _ _ => true
  | _ => false

/-- A process runs, and no handler of the orchestrator has control. -/
def Daemon.isIdle : Daemon → Bool
  | .stopped _ => false
  | .running _ runtime => runtime.running.isNone

namespace DaemonRuntime

def store (runtime : DaemonRuntime) : SQLiteCodexStore := runtime.daemon.store

/-- The worker of a process that stopped is gone. -/
def restart (runtime : DaemonRuntime) (daemon : Daemon) : DaemonRuntime :=
  match daemon with
  | .stopped _ => { runtime with daemon, worker := ⟨.waiting, []⟩ }
  | .running _ _ => { runtime with daemon }

/-- The status of the interaction of a row. -/
def statusOf (runtime : DaemonRuntime) (item : NotificationOutboxItem) : Option InteractionStatus :=
  (item.interactionId.bind runtime.store.tables.getInteraction).map PendingInteraction.status

/-- `record_outbox_failure` with the backoff of the worker. -/
def recordFailure (settings : OutboxSettings) (runtime : DaemonRuntime)
    (item : NotificationOutboxItem) (errorName : String) (now : Instant)
    (due : List NotificationOutboxItem) : Option DaemonRuntime :=
  let delay := min 300000000 (settings.outboxPoll * 2 ^ min (item.attemptCount + 1) 10)
  (runtime.daemon.step (.recordOutboxFailure item.id ("send failed (" ++ errorName ++ ")")
    (now + (delay : Nat)))).map fun daemon => { runtime with daemon, worker := ⟨.looping, due⟩ }

/-- `if item.interaction_id: attach_lark_message_id(...)`. -/
def attach (runtime : DaemonRuntime) (item : NotificationOutboxItem) (messageId : String) :
    Option Daemon :=
  match item.interactionId.filter (· ≠ "") with
  | none => some runtime.daemon
  | some interactionId =>
      runtime.daemon.step (.event (.call (.attachLarkMessageId interactionId messageId)))

/-- The state after an event, if the event can happen. -/
def step (settings : OutboxSettings) (runtime : DaemonRuntime) :
    DaemonRuntimeEvent → Option DaemonRuntime
  | .daemon .stop => (runtime.daemon.step .stop).map runtime.restart
  | .daemon event =>
      if event.isWorkerWrite || runtime.worker.phase.inControl then none
      else (runtime.daemon.step event).map runtime.restart
  | .poll now =>
      match runtime.worker.phase, runtime.daemon.isIdle with
      | .waiting, true =>
          some { runtime with worker := ⟨.looping, runtime.store.listDueOutbox now 50⟩ }
      | _, _ => none
  | .take now =>
      match runtime.worker.phase, runtime.worker.due with
      | .looping, [] => some { runtime with worker := ⟨.waiting, []⟩ }
      | .looping, item :: rest =>
          match renderItem settings runtime.store item with
          | .ok message => some { runtime with
              worker := ⟨.sending item, rest⟩
              taken := runtime.taken ++ [⟨item, message, runtime.statusOf item⟩] }
          | .error error => runtime.recordFailure settings item error.name now rest
      | _, _ => none
  | .returned messageId =>
      match runtime.worker.phase, runtime.daemon.isIdle with
      | .sending item, true => (runtime.attach item messageId).map fun daemon =>
          { runtime with daemon, worker := ⟨.marking item, runtime.worker.due⟩ }
      | _, _ => none
  | .mark now =>
      match runtime.worker.phase with
      | .marking item => (runtime.daemon.step (.markOutboxSent item.id now)).map fun daemon =>
          { runtime with daemon, worker := ⟨.looping, runtime.worker.due⟩ }
      | _ => none
  | .failed errorName now =>
      match runtime.worker.phase, runtime.daemon.isIdle with
      | .sending item, true => runtime.recordFailure settings item errorName now runtime.worker.due
      | .marking item, _ => runtime.recordFailure settings item errorName now runtime.worker.due
      | _, _ => none

end DaemonRuntime

/-- The runs of the daemon with its outbox worker, on a database that begins empty. -/
def daemonRuntimeSystem (settings : OutboxSettings) : System DaemonRuntime DaemonRuntimeEvent where
  initial runtime := runtime = ⟨.stopped ⟨.empty, []⟩, ⟨.waiting, []⟩, []⟩
  step before event after := before.step settings event = some after

section Rows

variable {store database : SQLiteCodexStore}

namespace SQLiteCodexStore

/-- The rows of the outbox are numbered in order. -/
def Numbered (store : SQLiteCodexStore) : Prop :=
  store.outbox.map NotificationOutboxItem.id = List.range' 1 store.outbox.length

/-- The interactions that unsent rows announce are pending. -/
def UnsentPending (store : SQLiteCodexStore) : Prop :=
  ∀ item ∈ store.outbox, item.sentAt = none → ∀ interactionId, item.Announces interactionId →
    store.tables.IsPending interactionId

/-- No interaction was settled while a row that announces it was unsent. -/
def SettlesAnnounced (store database : SQLiteCodexStore) : Prop :=
  ∀ item ∈ store.outbox, item.sentAt = none → ∀ interactionId, item.Announces interactionId →
    store.tables.IsPending interactionId → database.tables.IsPending interactionId

/-- The row is in the outbox, and unsent. -/
def Unsent (store : SQLiteCodexStore) (item : NotificationOutboxItem) : Prop :=
  item ∈ store.outbox ∧ item.sentAt = none

/-- Rows that are numbered on have different ids. -/
theorem Numbered.nodup (numbered : store.Numbered) :
    (store.outbox.map NotificationOutboxItem.id).Nodup := by
  rw [numbered]
  exact List.nodup_range'

/-- New rows of the orchestrator are numbered on. -/
theorem Numbered.extends {allowed : NotificationOutboxItem → Prop} (numbered : store.Numbered)
    (extended : store.Extends database allowed) : database.Numbered := by
  obtain ⟨items, outbox, _, following⟩ := extended
  unfold Numbered at *
  rw [outbox, List.map_append, numbered, following, List.length_append, ← List.range'_append_1,
    Nat.add_comm 1]

/-- Unsent rows announce what is pending, also after new rows, as long as nothing
announced was settled. -/
theorem UnsentPending.announcing (pending : store.UnsentPending)
    (announcing : store.Announcing database) (settles : store.SettlesAnnounced database) :
    database.UnsentPending := by
  obtain ⟨items, outbox, rows, _⟩ := announcing
  intro item member unsent interactionId announces
  rw [outbox] at member
  rcases List.mem_append.mp member with old | new
  · exact settles item old unsent interactionId announces
      (pending item old unsent interactionId announces)
  · exact (rows item new).2 interactionId announces

/-- A row that is unsent stays so when new rows are added. -/
theorem Unsent.extends {allowed : NotificationOutboxItem → Prop} {item : NotificationOutboxItem}
    (unsent : store.Unsent item) (extended : store.Extends database allowed) :
    database.Unsent item := by
  obtain ⟨items, outbox, _, _⟩ := extended
  refine ⟨?_, unsent.2⟩
  rw [outbox]
  exact List.mem_append_left items unsent.1

variable {outboxId : Nat} {change : NotificationOutboxItem → NotificationOutboxItem}

/-- An update of unsent rows leaves their numbers. -/
theorem Numbered.updateUnsent (numbered : store.Numbered)
    (keepsId : ∀ item, (change item).id = item.id) :
    (store.updateUnsent outboxId change).Numbered := by
  unfold Numbered SQLiteCodexStore.updateUnsent at *
  dsimp only
  rw [map_updateWhere _ keepsId, numbered]
  congr 1
  exact (List.length_map _).symm

/-- A write of the worker announces nothing. -/
theorem UnsentPending.updateUnsent (pending : store.UnsentPending)
    (keeps : ∀ item interactionId, (change item).Announces interactionId →
      item.Announces interactionId) :
    (store.updateUnsent outboxId change).UnsentPending := by
  intro item member unsent interactionId announces
  obtain ⟨old, present, rfl⟩ := mem_updateWhere.mp member
  split at unsent
  next chosen =>
    rw [if_pos chosen] at announces
    have unmarked : old.sentAt = none :=
      Option.isNone_iff_eq_none.mp ((Bool.and_eq_true _ _).mp chosen).2
    exact pending old present unmarked interactionId (keeps old interactionId announces)
  next chosen =>
    rw [if_neg chosen] at announces
    exact pending old present unsent interactionId announces

/-- A write to one row leaves the others unsent. -/
theorem Unsent.updateUnsent {item : NotificationOutboxItem} (unsent : store.Unsent item)
    (other : item.id ≠ outboxId) : (store.updateUnsent outboxId change).Unsent item := by
  refine ⟨mem_updateWhere_of_unselected unsent.1 ?_, unsent.2⟩
  rw [Bool.and_eq_false_iff]
  exact .inl (beq_eq_false_iff_ne.mpr other)

end SQLiteCodexStore

end Rows

section Steps

variable {daemon next : Daemon}

/-- Every database that a segment commits announces only what is pending. -/
theorem Daemon.announcing_of_databases {before after : CodexOrchestrator}
    {database : SQLiteCodexStore} {transactions : Nat} (announcing : before.Announcing after)
    (found : (databases before after)[transactions]? = some database) :
    before.store.Announcing database := by
  obtain ⟨commits, logged, related⟩ := announcing.logged
  have same : databases before after = before.store :: commits := by
    rw [databases, logged, List.drop_left]
  rcases mem_of_databases same found with rfl | member
  · exact (SQLiteCodexStore.Quiet.refl _).announcing
  · exact related database member

/-- Whatever the daemon does beside its worker, what it announces is pending. -/
theorem Daemon.step_announcing {event : DaemonEvent} (other : event.isWorkerWrite = false)
    (stepped : daemon.step event = some next) : daemon.store.Announcing next.store := by
  cases daemon with
  | stopped store =>
      cases event with
      | start environment =>
          cases stepped
          exact (start_quiet (.fresh store)).final.announcing
      | dieInStart environment transactions =>
          obtain ⟨database, found, rfl⟩ := Option.map_eq_some_iff.mp stepped
          exact announcing_of_databases (start_quiet (.fresh store)).announcing found
      | _ => cases stepped
  | running environment runtime =>
      cases event with
      | event event =>
          obtain ⟨after, advanced, rfl⟩ := Option.map_eq_some_iff.mp stepped
          obtain ⟨task, code, base, runs, rfl⟩ := Runtime.runs_of_step advanced
          unfold store
          dsimp only
          rw [Runtime.settle_orchestrator]
          exact (Runtime.runs_announces runs).final
      | die event transactions =>
          obtain ⟨after, advanced, died⟩ := Option.bind_eq_some_iff.mp stepped
          obtain ⟨database, found, rfl⟩ := Option.map_eq_some_iff.mp died
          obtain ⟨task, code, base, runs, rfl⟩ := Runtime.runs_of_step advanced
          rw [Runtime.settle_orchestrator] at found
          exact announcing_of_databases (Runtime.runs_announces runs) found
      | stop =>
          cases stepped
          exact (SQLiteCodexStore.Quiet.refl _).announcing
      | enqueueNotification notificationType payloadSummary nextAttemptAt createdAt =>
          simp only [step] at stepped
          split at stepped
          next store enqueued =>
            cases stepped
            apply SQLiteCodexStore.Extends.enqueue enqueued
            intro interactionId announces
            cases announces.2
          next => cases stepped
      | markOutboxSent => cases other
      | recordOutboxFailure => cases other
      | _ => cases stepped

end Steps

/-- The rows of the worker are unsent rows of the outbox, no two of them the same. -/
structure DaemonRuntime.QueuesUnsent (runtime : DaemonRuntime) : Prop where
  numbered : runtime.store.Numbered
  queued : ∀ item ∈ runtime.worker.queue, runtime.store.Unsent item
  apart : (runtime.worker.queue.map NotificationOutboxItem.id).Nodup

/-- Every row that was taken for sending announced a pending interaction, and the unsent rows
and the rows that wait for the worker still do. -/
structure DaemonRuntime.AnnouncesInTime (runtime : DaemonRuntime) : Prop
    extends runtime.QueuesUnsent where
  unsent : runtime.store.UnsentPending
  taken : ∀ row ∈ runtime.taken, ∀ interactionId, row.item.Announces interactionId →
    row.status = some .pending

namespace DaemonRuntime

variable {settings : OutboxSettings} {runtime before after : DaemonRuntime}

/-- The row in hand comes first of those that the worker has still to mark. -/
theorem queue_eq {item : NotificationOutboxItem} (phase : before.worker.phase.item? = some item) :
    before.worker.queue = item :: before.worker.due := by
  unfold OutboxWorker.queue
  rw [phase]
  rfl

/-- With no row in hand the worker has its list to go through. -/
theorem queue_of_none (phase : before.worker.phase.item? = none) :
    before.worker.queue = before.worker.due := by
  unfold OutboxWorker.queue
  rw [phase]
  rfl

namespace QueuesUnsent

/-- What the orchestrator adds leaves the rows that the worker has queued unsent. -/
theorem beside (queues : before.QueuesUnsent) {allowed : NotificationOutboxItem → Prop}
    (extended : before.store.Extends after.store allowed)
    (queue : after.worker.queue.Sublist before.worker.queue) : after.QueuesUnsent where
  numbered := queues.numbered.extends extended
  queued item member := (queues.queued item (queue.mem member)).extends extended
  apart := queues.apart.sublist (queue.map _)

/-- A write of the worker about the row that it has in hand. -/
theorem write (queues : before.QueuesUnsent) {item : NotificationOutboxItem}
    {change : NotificationOutboxItem → NotificationOutboxItem}
    (inHand : before.worker.queue = item :: after.worker.due)
    (store : after.store = before.store.updateUnsent item.id change)
    (phase : after.worker.phase.item? = none) (keepsId : ∀ item, (change item).id = item.id) :
    after.QueuesUnsent := by
  have queue := queue_of_none phase
  have apart := queues.apart
  rw [inHand, List.map_cons, List.nodup_cons] at apart
  constructor
  · rw [store]
    exact queues.numbered.updateUnsent keepsId
  · intro other member
    rw [queue] at member
    rw [store]
    refine (queues.queued other ?_).updateUnsent fun same => ?_
    · rw [inHand]
      exact List.mem_cons_of_mem item member
    · exact apart.1 (same ▸ List.mem_map_of_mem member)
  · rw [queue]
    exact apart.2

/-- The worker lists what is due. -/
theorem poll (queues : before.QueuesUnsent) (now : Instant) (limit : Nat) :
    ({ before with worker := ⟨.looping, before.store.listDueOutbox now limit⟩ } :
      DaemonRuntime).QueuesUnsent where
  numbered := queues.numbered
  queued item member := by
    have listed := (List.mem_insertionSort _).mp (List.mem_of_mem_take member)
    obtain ⟨present, due⟩ := List.mem_filter.mp listed
    exact ⟨present, Option.isNone_iff_eq_none.mp ((Bool.and_eq_true _ _).mp due).1⟩
  apart := by
    have due : (before.store.outbox.filter fun item =>
        item.sentAt.isNone && decide (item.nextAttemptAt ≤ now)).Sublist before.store.outbox :=
      List.filter_sublist
    have apart := queues.numbered.nodup.sublist (due.map _)
    have sorted := ((List.perm_insertionSort SQLiteCodexStore.DueBefore _).map
      NotificationOutboxItem.id).nodup_iff.mpr apart
    exact sorted.sublist ((List.take_sublist _ _).map _)

/-- The worker takes the first row of its list in hand. -/
theorem take (queues : before.QueuesUnsent) {item : NotificationOutboxItem}
    {rest : List NotificationOutboxItem} (queue : before.worker.queue = item :: rest)
    (inHand : after.worker.queue = item :: rest) (store : after.store = before.store) :
    after.QueuesUnsent := by
  have unchanged : before.store.Quiet after.store := by
    rw [store]
    exact SQLiteCodexStore.Quiet.refl _
  apply queues.beside unchanged
  rw [inHand, queue]

end QueuesUnsent

/-- The step settles no interaction while a row that announces it is unsent. -/
def AnnouncesFirst (settings : OutboxSettings) (runtime : DaemonRuntime)
    (event : DaemonRuntimeEvent) : Prop :=
  ∀ after, runtime.step settings event = some after → runtime.store.SettlesAnnounced after.store

namespace AnnouncesInTime

/-- Code beside the worker, which takes no row. -/
theorem beside (inTime : before.AnnouncesInTime) (announcing : before.store.Announcing after.store)
    (settles : before.store.SettlesAnnounced after.store)
    (queue : after.worker.queue.Sublist before.worker.queue) (taken : after.taken = before.taken) :
    after.AnnouncesInTime where
  toQueuesUnsent := inTime.toQueuesUnsent.beside announcing queue
  unsent := inTime.unsent.announcing announcing settles
  taken := by
    rw [taken]
    exact inTime.taken

/-- A write of the worker about the row that it has in hand. -/
theorem write (inTime : before.AnnouncesInTime) {item : NotificationOutboxItem}
    {change : NotificationOutboxItem → NotificationOutboxItem}
    (inHand : before.worker.queue = item :: after.worker.due)
    (store : after.store = before.store.updateUnsent item.id change)
    (phase : after.worker.phase.item? = none) (taken : after.taken = before.taken)
    (keepsId : ∀ item, (change item).id = item.id)
    (keeps : ∀ item interactionId, (change item).Announces interactionId →
      item.Announces interactionId) : after.AnnouncesInTime where
  toQueuesUnsent := inTime.toQueuesUnsent.write inHand store phase keepsId
  unsent := by
    rw [store]
    exact inTime.unsent.updateUnsent keeps
  taken := by
    rw [taken]
    exact inTime.taken

/-- The worker lists what is due. -/
theorem poll (inTime : before.AnnouncesInTime) (now : Instant) (limit : Nat) :
    ({ before with worker := ⟨.looping, before.store.listDueOutbox now limit⟩ } :
      DaemonRuntime).AnnouncesInTime where
  toQueuesUnsent := inTime.toQueuesUnsent.poll now limit
  unsent := inTime.unsent
  taken := inTime.taken

/-- A row that the worker takes announces a pending interaction. -/
theorem take (inTime : before.AnnouncesInTime) {item : NotificationOutboxItem}
    {rest : List NotificationOutboxItem} (message : RenderedMessage)
    (queue : before.worker.queue = item :: rest) :
    ({ before with
        worker := ⟨.sending item, rest⟩
        taken := before.taken ++ [⟨item, message, before.statusOf item⟩] } :
      DaemonRuntime).AnnouncesInTime where
  toQueuesUnsent := inTime.toQueuesUnsent.take queue rfl rfl
  unsent := inTime.unsent
  taken row member interactionId announces := by
    rcases List.mem_append.mp member with old | new
    · exact inTime.taken row old interactionId announces
    · obtain rfl := List.mem_singleton.mp new
      have unsent := inTime.queued item (queue ▸ List.mem_cons_self)
      obtain ⟨stored, present, same, pending⟩ :=
        inTime.unsent item unsent.1 unsent.2 interactionId announces
      have found := CodexTables.getInteraction_eq_some.mpr ⟨present, same⟩
      change (item.interactionId.bind _).map _ = _
      rw [announces.2, Option.bind_some, found]
      exact congrArg some (beq_iff_eq.mp pending)

end AnnouncesInTime

/-- What the daemon does beside its worker. -/
theorem step_daemon {event : DaemonEvent}
    (stepped : before.step settings (.daemon event) = some after) :
    event.isWorkerWrite = false ∧
      ∃ next, before.daemon.step event = some next ∧ before.restart next = after := by
  by_cases stops : event = .stop
  · subst stops
    exact ⟨rfl, Option.map_eq_some_iff.mp stepped⟩
  · have moves : (if event.isWorkerWrite || before.worker.phase.inControl then none
        else (before.daemon.step event).map before.restart) = some after := by
      cases event <;> first | exact absurd rfl stops | exact stepped
    split at moves
    next => cases moves
    next free =>
      rw [Bool.not_eq_true, Bool.or_eq_false_iff] at free
      exact ⟨free.1, Option.map_eq_some_iff.mp moves⟩

/-- A restart of the worker takes over the store. -/
theorem restart_store (runtime : DaemonRuntime) (daemon : Daemon) :
    (runtime.restart daemon).store = daemon.store := by
  cases daemon <;> rfl

/-- A restart of the worker takes over what the client was handed. -/
theorem restart_taken (runtime : DaemonRuntime) (daemon : Daemon) :
    (runtime.restart daemon).taken = runtime.taken := by
  cases daemon <;> rfl

/-- A restart of the worker leaves it with no rows that it did not have. -/
theorem restart_queue (runtime : DaemonRuntime) (daemon : Daemon) :
    (runtime.restart daemon).worker.queue.Sublist runtime.worker.queue := by
  cases daemon with
  | stopped => exact List.nil_sublist _
  | running => exact .refl _

/-- The worker marks a row only in a process that runs. -/
theorem step_markOutboxSent {daemon next : Daemon} {outboxId : Nat} {sentAt : Instant}
    (stepped : daemon.step (.markOutboxSent outboxId sentAt) = some next) :
    next.store = daemon.store.markOutboxSent outboxId sentAt := by
  cases daemon with
  | stopped => cases stepped
  | running =>
      cases stepped
      rfl

/-- Recording a failure is one transaction of the store. -/
theorem step_recordOutboxFailure {daemon next : Daemon} {outboxId : Nat} {error : String}
    {nextAttemptAt : Instant}
    (stepped : daemon.step (.recordOutboxFailure outboxId error nextAttemptAt) = some next) :
    next.store = daemon.store.recordOutboxFailure outboxId error nextAttemptAt := by
  cases daemon with
  | stopped => cases stepped
  | running =>
      cases stepped
      rfl

/-- Attaching the id of a message adds no row. -/
theorem attach_announcing {item : NotificationOutboxItem} {messageId : String} {next : Daemon}
    (attached : before.attach item messageId = some next) :
    before.store.Announcing next.store := by
  unfold attach at attached
  split at attached
  next =>
    cases attached
    exact (SQLiteCodexStore.Quiet.refl _).announcing
  next => exact Daemon.step_announcing rfl attached

/-- A failure that is recorded keeps the rows of the worker announced in time. -/
theorem AnnouncesInTime.recordFailure (inTime : before.AnnouncesInTime)
    {item : NotificationOutboxItem} {errorName : String} {now : Instant}
    {due : List NotificationOutboxItem} (inHand : before.worker.queue = item :: due)
    (recorded : before.recordFailure settings item errorName now due = some after) :
    after.AnnouncesInTime := by
  obtain ⟨daemon, stepped, rfl⟩ := Option.map_eq_some_iff.mp recorded
  have written := step_recordOutboxFailure stepped
  exact inTime.write inHand written rfl rfl (fun _ => rfl) fun _ _ => id

/-- Every step keeps announcements in time, as long as interactions are announced first. -/
theorem AnnouncesInTime.step {event : DaemonRuntimeEvent} (inTime : before.AnnouncesInTime)
    (first : AnnouncesFirst settings before event)
    (stepped : before.step settings event = some after) : after.AnnouncesInTime := by
  have settles := first after stepped
  cases event with
  | daemon event =>
      obtain ⟨other, next, moved, rfl⟩ := step_daemon stepped
      have announcing := Daemon.step_announcing other moved
      rw [← restart_store before next] at announcing
      exact inTime.beside announcing settles (restart_queue before next) (restart_taken before next)
  | poll now =>
      simp only [DaemonRuntime.step] at stepped
      split at stepped
      next =>
        cases stepped
        exact inTime.poll now 50
      next => cases stepped
  | take now =>
      simp only [DaemonRuntime.step] at stepped
      split at stepped
      next =>
        cases stepped
        exact inTime.beside (SQLiteCodexStore.Quiet.refl _).announcing settles (List.nil_sublist _)
          rfl
      next item rest looping due =>
        have queue : before.worker.queue = item :: rest := by
          rw [queue_of_none, due]
          rw [looping]
          rfl
        split at stepped
        next message _ =>
          cases stepped
          exact inTime.take message queue
        next error _ => exact inTime.recordFailure queue stepped
      next => cases stepped
  | returned messageId =>
      simp only [DaemonRuntime.step] at stepped
      split at stepped
      next item sending _ =>
        obtain ⟨next, attached, rfl⟩ := Option.map_eq_some_iff.mp stepped
        refine inTime.beside (attach_announcing attached) settles ?_ rfl
        have same : before.worker.phase.item? = some item := by
          rw [sending]
          rfl
        rw [queue_eq same]
        exact .refl _
      next => cases stepped
  | mark now =>
      simp only [DaemonRuntime.step] at stepped
      split at stepped
      next item marking =>
        obtain ⟨next, marked, rfl⟩ := Option.map_eq_some_iff.mp stepped
        have written := step_markOutboxSent marked
        have same : before.worker.phase.item? = some item := by
          rw [marking]
          rfl
        exact inTime.write (queue_eq same) written rfl rfl (fun _ => rfl) fun _ _ => id
      next => cases stepped
  | failed errorName now =>
      simp only [DaemonRuntime.step] at stepped
      split at stepped
      next item sending _ =>
        have same : before.worker.phase.item? = some item := by
          rw [sending]
          rfl
        exact inTime.recordFailure (queue_eq same) stepped
      next item marking =>
        have same : before.worker.phase.item? = some item := by
          rw [marking]
          rfl
        exact inTime.recordFailure (queue_eq same) stepped
      next => cases stepped

end DaemonRuntime

/-- Where every interaction is announced before it is settled, a row is taken for sending only
while its interaction is pending. -/
theorem announced_while_pending {settings : OutboxSettings} {runtime : DaemonRuntime}
    (reachable : (daemonRuntimeSystem settings).ReachableVia
      (DaemonRuntime.AnnouncesFirst settings) runtime) :
    ∀ row ∈ runtime.taken, ∀ interactionId, row.item.Announces interactionId →
      row.status = some .pending := by
  have inTime := reachable.invariant DaemonRuntime.AnnouncesInTime ?_
    fun before event after inTime first stepped => inTime.step first stepped
  · exact inTime.taken
  · rintro _ rfl
    refine ⟨⟨rfl, ?_, List.nodup_nil⟩, ?_, ?_⟩
    all_goals exact fun _ absent => absurd absent List.not_mem_nil

section Scenarios

def pollingSettings : OutboxSettings := ⟨.text, 1000000⟩

/-- Follow events of the daemon and its worker from an empty database. -/
theorem worker_of_scenario {guard : DaemonRuntime → DaemonRuntimeEvent → Prop}
    {property : DaemonRuntime → Prop} [DecidablePred property]
    (allowed : DaemonRuntime → DaemonRuntimeEvent → Bool) (events : List DaemonRuntimeEvent)
    (implies : ∀ runtime event, allowed runtime event → guard runtime event)
    (checked : (System.follow (DaemonRuntime.step pollingSettings) allowed
      ⟨.stopped ⟨.empty, []⟩, ⟨.waiting, []⟩, []⟩ events).any fun runtime => property runtime) :
    ∃ runtime, (daemonRuntimeSystem pollingSettings).ReachableVia guard runtime ∧
      property runtime := by
  obtain ⟨runtime, followed, holds⟩ := (Option.any_eq_true _ _).mp checked
  exact ⟨runtime, ⟨_, rfl, System.reachesVia_of_follow (fun _ _ _ stepped => stepped) implies
    followed⟩, of_decide_eq_true holds⟩

/-- A session asks for an approval. -/
def approvalAsked : List DaemonRuntimeEvent :=
  (sessionBegins ++ [DaemonEvent.event (.call (.processServerRequest
    ⟨.int 1, "item/commandExecution/requestApproval", []⟩ "id-0"))]).map .daemon

/-- The worker takes the first row that is due. -/
def takesFirst : List DaemonRuntimeEvent := [.poll 1000000000, .take 1000000000]

/-- The terminal answers a request before its notification is due, and the phone is still asked. -/
theorem settled_interaction_announced : ∃ runtime,
    (daemonRuntimeSystem pollingSettings).Reachable runtime ∧
    ∃ row ∈ runtime.taken, row.item.Announces "id-1" ∧ row.status = some .resolved :=
  worker_of_scenario (fun _ _ => true)
    (approvalAsked ++ [.daemon (.event (.call (.resolveTerminalRequest (.int 1)
      (.obj [("decision", .str "accept")]))))] ++ takesFirst)
    (fun _ _ _ => trivial) (by decide)

/-- The event settles no interaction. -/
def settlesNothing (runtime : DaemonRuntime) (event : DaemonRuntimeEvent) : Bool :=
  (runtime.step pollingSettings event).all fun after =>
    decide (∀ row ∈ runtime.store.tables.interactions, row.isPending →
      after.store.tables.IsPending row.id)

/-- An event that settles no interaction settles none before its announcement was sent. -/
theorem announcesFirst_of_settlesNothing {runtime : DaemonRuntime} {event : DaemonRuntimeEvent}
    (settles : settlesNothing runtime event) :
    DaemonRuntime.AnnouncesFirst pollingSettings runtime event := by
  intro after stepped item _ _ interactionId _ pending
  unfold settlesNothing at settles
  rw [stepped] at settles
  obtain ⟨row, member, rfl, waits⟩ := pending
  exact of_decide_eq_true settles row member waits

/-- A request that nobody answered yet is announced while it is pending. -/
theorem unanswered_request_announced : ∃ runtime,
    (daemonRuntimeSystem pollingSettings).ReachableVia
      (DaemonRuntime.AnnouncesFirst pollingSettings) runtime ∧
    ∃ row ∈ runtime.taken, row.item.Announces "id-1" ∧ row.status = some .pending := by
  have reached : ∃ runtime, (daemonRuntimeSystem pollingSettings).ReachableVia
      (DaemonRuntime.AnnouncesFirst pollingSettings) runtime ∧
      ∃ row ∈ runtime.taken, row.item.Announces "id-1" :=
    worker_of_scenario settlesNothing (approvalAsked ++ takesFirst)
      (fun _ _ => announcesFirst_of_settlesNothing) (by decide)
  obtain ⟨runtime, reachable, row, member, announces⟩ := reached
  exact ⟨runtime, reachable, row, member, announces,
    announced_while_pending reachable row member "id-1" announces⟩

end Scenarios

end LarkBot
