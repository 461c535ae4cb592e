import LarkBot.Server.Daemon.OutboxWorker

/-! # What becomes of outbox messages

Every message that the worker hands to the Lark client has one end: the client accepts it and its
row is marked as sent, or something raises or stops the worker before. The client may have accepted
a message whose id could not be attached. In every run, over any number of processes, a row is
accepted once more than it was left unmarked after an acceptance at most
(`LarkBot.messages_accounted`).
-/

namespace LarkBot

open Foundation

/-- The rows that the worker handed to the Lark client, and what became of each time. -/
structure OutboxLedger where
  handed : List Nat
  /-- `send_rendered` returned. -/
  accepted : List Nat
  /-- `send_rendered` raised, or it had not returned when the process stopped. -/
  unanswered : List Nat
  /-- `send_rendered` returned, and the attachment of the message id or the mark raised, or the
  process stopped before the row was marked. -/
  unmarked : List Nat

def OutboxPhase.sendingIds : OutboxPhase → List Nat
  | .sending item => [item.id]
  | _ => []

def OutboxPhase.markingIds : OutboxPhase → List Nat
  | .marking item => [item.id]
  | _ => []

/-- No row is being sent when none is in hand. -/
theorem OutboxPhase.sendingIds_of_none {phase : OutboxPhase} (free : phase.item? = none) :
    phase.sendingIds = [] := by
  cases phase with
  | sending item => cases free
  | _ => rfl

/-- No row is being marked when none is in hand. -/
theorem OutboxPhase.markingIds_of_none {phase : OutboxPhase} (free : phase.item? = none) :
    phase.markingIds = [] := by
  cases phase with
  | marking item => cases free
  | _ => rfl

namespace OutboxLedger

/-- The worker gives up the row that it has in hand. If it was being sent, the client accepted it
or gave no answer. -/
def giveUp (ledger : OutboxLedger) (phase : OutboxPhase) (accepted : Bool) : OutboxLedger :=
  { ledger with
    accepted := ledger.accepted ++ if accepted then phase.sendingIds else []
    unanswered := ledger.unanswered ++ if accepted then [] else phase.sendingIds
    unmarked := ledger.unmarked ++ (if accepted then phase.sendingIds else []) ++
      phase.markingIds }

/-- The ledger after a step of the daemon. -/
def note (ledger : OutboxLedger) (before after : OutboxPhase) :
    DaemonRuntimeEvent → OutboxLedger
  | .daemon _ => if after.item?.isNone then ledger.giveUp before false else ledger
  | .take _ => { ledger with handed := ledger.handed ++ after.sendingIds }
  | .returned _ => { ledger with accepted := ledger.accepted ++ after.markingIds }
  | .failed _ _ => ledger.giveUp before false
  | _ => ledger

end OutboxLedger

/-- What happens to the row that the worker has in hand. -/
inductive LedgerEvent where
  | runtime (event : DaemonRuntimeEvent)
  /-- `send_rendered` has returned when the event takes the row from the worker: the attachment of
  its message id raises, or the process stops before the row is marked. -/
  | unattached (event : DaemonRuntimeEvent)
  /-- What `list_due_outbox` or `record_outbox_failure` raises ends the worker. -/
  | ended (accepted : Bool)

/-- The events of the worker itself. -/
def DaemonRuntimeEvent.isWorker : DaemonRuntimeEvent → Bool
  | .daemon _ => false
  | _ => true

/-- The client may have returned for the row in hand when the event takes it from the worker. A
failure comes after the return only where there is an id to attach. -/
def OutboxPhase.returnsBefore : OutboxPhase → DaemonRuntimeEvent → Bool
  | .sending item, .failed _ _ => (item.interactionId.filter (· ≠ "")).isSome
  | .sending _, .daemon _ => true
  | _, _ => false

structure LedgerRun where
  runtime : DaemonRuntime
  ledger : OutboxLedger
  /-- The task of the worker has not ended in this process. -/
  working : Bool

namespace LedgerRun

/-- A new process begins with a new worker. -/
def worksAfter (run : LedgerRun) (after : DaemonRuntime) : Bool :=
  run.working || !after.daemon.isRunning

def step (settings : OutboxSettings) (run : LedgerRun) : LedgerEvent → Option LedgerRun
  | .runtime event =>
      if event.isWorker && !run.working then none
      else (run.runtime.step settings event).map fun after =>
        ⟨after, run.ledger.note run.runtime.worker.phase after.worker.phase event,
          run.worksAfter after⟩
  | .unattached event =>
      match run.runtime.step settings event with
      | none => none
      | some after =>
          if run.runtime.worker.phase.returnsBefore event && after.worker.phase.item?.isNone then
            some ⟨after, run.ledger.giveUp run.runtime.worker.phase true, run.worksAfter after⟩
          else none
  | .ended accepted =>
      let phase := run.runtime.worker.phase
      if run.working && (phase.inControl || run.runtime.daemon.isIdle) &&
          (!accepted || phase.returnsBefore (.failed "" 0)) then
        some ⟨{ run.runtime with worker := ⟨.waiting, []⟩ }, run.ledger.giveUp phase accepted,
          false⟩
      else none

end LedgerRun

/-- The runs of the daemon with its outbox worker and a ledger of it. -/
def ledgerSystem (settings : OutboxSettings) : System LedgerRun LedgerEvent where
  initial run := run = ⟨⟨.stopped ⟨.empty, []⟩, ⟨.waiting, []⟩, []⟩, ⟨[], [], [], []⟩, true⟩
  step before event after := before.step settings event = some after

namespace SQLiteCodexStore

variable {store database : SQLiteCodexStore}

/-- The row is in the outbox and marked as sent. -/
def Sent (store : SQLiteCodexStore) (outboxId : Nat) : Prop :=
  ∃ item ∈ store.outbox, item.id = outboxId ∧ item.sentAt.isSome

instance (store : SQLiteCodexStore) (outboxId : Nat) : Decidable (store.Sent outboxId) :=
  inferInstanceAs (Decidable (∃ item ∈ store.outbox, _))

/-- New rows are not sent, so the same rows are as before. -/
theorem sent_extends {allowed : NotificationOutboxItem → Prop}
    (extended : store.Extends database allowed) (outboxId : Nat) :
    database.Sent outboxId ↔ store.Sent outboxId := by
  obtain ⟨items, outbox, rows, _⟩ := extended
  unfold Sent
  rw [outbox]
  constructor
  · intro ⟨item, member, same, sent⟩
    rcases List.mem_append.mp member with old | new
    · exact ⟨item, old, same, sent⟩
    · rw [(rows item new).1] at sent
      cases sent
  · intro ⟨item, member, same, sent⟩
    exact ⟨item, List.mem_append_left items member, same, sent⟩

/-- An unsent row is not the one that was sent. -/
theorem Unsent.not_sent {item : NotificationOutboxItem} (numbered : store.Numbered)
    (unsent : store.Unsent item) : ¬ store.Sent item.id := by
  intro ⟨other, member, same, sent⟩
  have equal := List.inj_on_of_nodup_map numbered.nodup member unsent.1 same
  rw [equal, unsent.2] at sent
  cases sent

/-- No write of the worker selects a row that is sent. -/
theorem mem_updateUnsent_of_sent {outboxId : Nat}
    {change : NotificationOutboxItem → NotificationOutboxItem} {item : NotificationOutboxItem}
    (member : item ∈ store.outbox) (sent : item.sentAt.isSome) :
    item ∈ (store.updateUnsent outboxId change).outbox := by
  apply mem_updateWhere_of_unselected member
  rw [Bool.and_eq_false_iff]
  obtain ⟨time, stored⟩ := Option.isSome_iff_exists.mp sent
  rw [stored]
  exact .inr rfl

/-- A recorded failure marks no row as sent. -/
theorem sent_recordOutboxFailure (outboxId : Nat) (error : String) (nextAttemptAt : Instant)
    (other : Nat) :
    (store.recordOutboxFailure outboxId error nextAttemptAt).Sent other ↔ store.Sent other := by
  constructor
  · intro ⟨item, member, same, sent⟩
    obtain ⟨old, present, rfl⟩ := mem_updateWhere.mp member
    refine ⟨old, present, ?_⟩
    split at same
    next chosen =>
      rw [if_pos chosen] at sent
      exact ⟨same, sent⟩
    next chosen =>
      rw [if_neg chosen] at sent
      exact ⟨same, sent⟩
  · intro ⟨item, member, same, sent⟩
    exact ⟨item, mem_updateUnsent_of_sent member sent, same, sent⟩

/-- Marking an unsent row adds it to the sent ones. -/
theorem sent_markOutboxSent {item : NotificationOutboxItem} (unsent : store.Unsent item)
    (sentAt : Instant) (other : Nat) :
    (store.markOutboxSent item.id sentAt).Sent other ↔ store.Sent other ∨ item.id = other := by
  constructor
  · intro ⟨row, member, same, sent⟩
    obtain ⟨old, present, rfl⟩ := mem_updateWhere.mp member
    split at same
    next chosen =>
      have chosenId : old.id = item.id := beq_iff_eq.mp ((Bool.and_eq_true _ _).mp chosen).1
      exact .inr (chosenId.symm.trans same)
    next chosen =>
      rw [if_neg chosen] at sent
      exact .inl ⟨old, present, same, sent⟩
  · intro either
    rcases either with ⟨row, member, same, sent⟩ | same
    · exact ⟨row, mem_updateUnsent_of_sent member sent, same, sent⟩
    · refine ⟨_, mem_updateWhere_of_selected unsent.1 ?_, same, rfl⟩
      rw [unsent.2, beq_self_eq_true]
      rfl

end SQLiteCodexStore

/-- The rows of the worker stay unsent, and nothing is marked as sent. -/
structure DaemonRuntime.LeavesUnsent (before after : DaemonRuntime) : Prop where
  queues : after.QueuesUnsent
  sent : ∀ outboxId, after.store.Sent outboxId ↔ before.store.Sent outboxId

/-- Every row that was handed over was accepted, came to no answer or is being sent; every row that
was accepted is sent, was left unmarked or is being marked. -/
structure OutboxLedger.Balanced (ledger : OutboxLedger) (phase : OutboxPhase)
    (store : SQLiteCodexStore) : Prop where
  handed : ∀ outboxId, ledger.handed.count outboxId = ledger.accepted.count outboxId +
    ledger.unanswered.count outboxId + phase.sendingIds.count outboxId
  accepted : ∀ outboxId, ledger.accepted.count outboxId =
    (if store.Sent outboxId then 1 else 0) + ledger.unmarked.count outboxId +
      phase.markingIds.count outboxId

namespace OutboxLedger.Balanced

variable {ledger : OutboxLedger} {phase after : OutboxPhase} {store database : SQLiteCodexStore}

/-- Only what is marked as sent counts of the outbox. -/
theorem of_sent (balanced : ledger.Balanced phase store)
    (same : ∀ outboxId, database.Sent outboxId ↔ store.Sent outboxId) :
    ledger.Balanced phase database where
  handed := balanced.handed
  accepted outboxId := by
    rw [balanced.accepted outboxId]
    simp only [same]

/-- A row that is given up has come to no answer, or was accepted and is left unmarked. -/
theorem giveUp (balanced : ledger.Balanced phase store) (returned : Bool)
    (free : after.item? = none) : (ledger.giveUp phase returned).Balanced after store where
  handed outboxId := by
    have handed := balanced.handed outboxId
    have sending : after.sendingIds.count outboxId = 0 := by
      rw [OutboxPhase.sendingIds_of_none free, List.count_nil]
    unfold OutboxLedger.giveUp
    dsimp only
    cases returned
    all_goals
      simp only [Bool.false_eq_true, if_true, if_false, List.count_append, List.count_nil]
      omega
  accepted outboxId := by
    have accepted := balanced.accepted outboxId
    have marking : after.markingIds.count outboxId = 0 := by
      rw [OutboxPhase.markingIds_of_none free, List.count_nil]
    unfold OutboxLedger.giveUp
    dsimp only
    cases returned
    all_goals
      simp only [Bool.false_eq_true, if_true, if_false, List.count_append, List.count_nil]
      omega

/-- The worker takes a row, or what it has taken raises before it is handed over. -/
theorem hand (balanced : ledger.Balanced phase store) (sending : phase.sendingIds = [])
    (marking : phase.markingIds = after.markingIds) :
    ({ ledger with handed := ledger.handed ++ after.sendingIds } : OutboxLedger).Balanced after
      store where
  handed outboxId := by
    have handed := balanced.handed outboxId
    rw [sending, List.count_nil] at handed
    dsimp only
    rw [List.count_append]
    omega
  accepted outboxId := by
    rw [← marking]
    exact balanced.accepted outboxId

/-- The row that is being sent is accepted. -/
theorem accept (balanced : ledger.Balanced phase store) (same : phase.sendingIds = after.markingIds)
    (marking : phase.markingIds = []) (sending : after.sendingIds = []) :
    ({ ledger with accepted := ledger.accepted ++ after.markingIds } : OutboxLedger).Balanced after
      store where
  handed outboxId := by
    have handed := balanced.handed outboxId
    rw [same] at handed
    dsimp only
    rw [sending, List.count_nil, List.count_append]
    omega
  accepted outboxId := by
    have accepted := balanced.accepted outboxId
    rw [marking, List.count_nil] at accepted
    dsimp only
    rw [List.count_append]
    omega

/-- The row that is being marked is sent. -/
theorem mark {item : NotificationOutboxItem} (balanced : ledger.Balanced (.marking item) store)
    (unsent : ¬ store.Sent item.id)
    (marked : ∀ outboxId, database.Sent outboxId ↔ store.Sent outboxId ∨ item.id = outboxId) :
    ledger.Balanced .looping database where
  handed := balanced.handed
  accepted outboxId := by
    have accepted := balanced.accepted outboxId
    have single : (OutboxPhase.marking item).markingIds.count outboxId =
        if item.id = outboxId then 1 else 0 := by
      unfold OutboxPhase.markingIds
      rw [List.count_singleton]
      simp only [beq_iff_eq]
    rw [single] at accepted
    rw [accepted]
    by_cases same : item.id = outboxId
    · subst same
      rw [if_neg unsent, if_pos rfl, if_pos ((marked item.id).mpr (.inr rfl))]
      unfold OutboxPhase.markingIds
      rw [List.count_nil]
      omega
    · have unchanged : database.Sent outboxId ↔ store.Sent outboxId := by
        rw [marked outboxId]
        exact or_iff_left same
      simp only [unchanged, if_neg same]
      rfl

end OutboxLedger.Balanced

namespace DaemonRuntime

variable {settings : OutboxSettings} {before after : DaemonRuntime}

namespace QueuesUnsent

/-- A failure is written about the row in hand, and nothing is sent by it. -/
theorem recordFailure (queues : before.QueuesUnsent) {item : NotificationOutboxItem}
    {errorName : String} {now : Instant} {due : List NotificationOutboxItem}
    (inHand : before.worker.queue = item :: due)
    (recorded : before.recordFailure settings item errorName now due = some after) :
    before.LeavesUnsent after ∧ after.worker.phase = .looping := by
  obtain ⟨daemon, stepped, rfl⟩ := Option.map_eq_some_iff.mp recorded
  have written := step_recordOutboxFailure stepped
  refine ⟨⟨queues.write inHand written rfl fun _ => rfl, fun outboxId => ?_⟩, rfl⟩
  unfold store
  dsimp only
  rw [written]
  exact SQLiteCodexStore.sent_recordOutboxFailure _ _ _ outboxId

/-- The daemon goes on beside its worker, or its process stops and takes the worker along. -/
theorem daemon (queues : before.QueuesUnsent) {event : DaemonEvent}
    (stepped : before.step settings (.daemon event) = some after) :
    before.LeavesUnsent after := by
  obtain ⟨other, next, moved, rfl⟩ := step_daemon stepped
  have announcing := Daemon.step_announcing other moved
  rw [← restart_store before next] at announcing
  exact ⟨queues.beside announcing (restart_queue before next),
    SQLiteCodexStore.sent_extends announcing⟩

/-- The worker writes that it could not send the row in hand, or not mark it. -/
theorem failed (queues : before.QueuesUnsent) {errorName : String} {now : Instant}
    (stepped : before.step settings (.failed errorName now) = some after) :
    before.LeavesUnsent after ∧ after.worker.phase = .looping := by
  have inHand : ∃ item, before.worker.phase.item? = some item ∧
      before.recordFailure settings item errorName now before.worker.due = some after := by
    simp only [DaemonRuntime.step] at stepped
    split at stepped
    next item sending _ =>
      rw [sending]
      exact ⟨item, rfl, stepped⟩
    next item marking =>
      rw [marking]
      exact ⟨item, rfl, stepped⟩
    next => cases stepped
  obtain ⟨item, phase, recorded⟩ := inHand
  exact queues.recordFailure (queue_eq phase) recorded

end QueuesUnsent

end DaemonRuntime

/-- The worker has unsent rows, and the ledger explains what became of the others. -/
structure LedgerRun.Accounted (run : LedgerRun) : Prop where
  queues : run.runtime.QueuesUnsent
  balanced : run.ledger.Balanced run.runtime.worker.phase run.runtime.store

namespace LedgerRun.Accounted

variable {settings : OutboxSettings} {before after : DaemonRuntime} {ledger : OutboxLedger}
  {working works : Bool}

/-- Whatever takes the row from the worker without marking it, the ledger says so. -/
theorem giveUp (accounted : Accounted ⟨before, ledger, working⟩)
    (leaves : before.LeavesUnsent after) (returned : Bool)
    (free : after.worker.phase.item? = none) :
    Accounted ⟨after, ledger.giveUp before.worker.phase returned, works⟩ where
  queues := leaves.queues
  balanced := (accounted.balanced.giveUp returned free).of_sent leaves.sent

/-- An event of the orchestrator leaves the ledger in balance. -/
theorem beside (accounted : Accounted ⟨before, ledger, working⟩) {event : DaemonEvent}
    (stepped : before.step settings (.daemon event) = some after) :
    Accounted ⟨after, ledger.note before.worker.phase after.worker.phase (.daemon event),
      works⟩ := by
  have leaves := accounted.queues.daemon stepped
  unfold OutboxLedger.note
  by_cases idle : after.worker.phase.item? = none
  · rw [if_pos (Option.isNone_iff_eq_none.mpr idle)]
    exact accounted.giveUp leaves false idle
  · rw [if_neg fun none => idle (Option.isNone_iff_eq_none.mp none)]
    -- a row is left in hand only where the process goes on
    have same : after.worker.phase = before.worker.phase := by
      obtain ⟨_, next, _, rfl⟩ := DaemonRuntime.step_daemon stepped
      cases next with
      | stopped => exact absurd rfl idle
      | running => rfl
    refine ⟨leaves.queues, ?_⟩
    dsimp only
    rw [same]
    exact accounted.balanced.of_sent leaves.sent

/-- The worker takes the next row, if there is one. -/
theorem take (accounted : Accounted ⟨before, ledger, working⟩) {now : Instant}
    (stepped : before.step settings (.take now) = some after) :
    Accounted ⟨after, ledger.note before.worker.phase after.worker.phase (.take now), works⟩ := by
  simp only [DaemonRuntime.step] at stepped
  split at stepped
  next looping _ =>
    cases stepped
    refine ⟨accounted.queues.beside (SQLiteCodexStore.Quiet.refl _) (List.nil_sublist _), ?_⟩
    have balanced := accounted.balanced
    rw [looping] at balanced
    exact balanced.hand rfl rfl
  next item rest looping due =>
    have queue : before.worker.queue = item :: rest := by
      rw [DaemonRuntime.queue_of_none, due]
      rw [looping]
      rfl
    have balanced := accounted.balanced
    rw [looping] at balanced
    split at stepped
    next message _ =>
      cases stepped
      exact ⟨accounted.queues.take queue rfl rfl, balanced.hand rfl rfl⟩
    next error _ =>
      obtain ⟨leaves, phase⟩ := accounted.queues.recordFailure queue stepped
      refine ⟨leaves.queues, OutboxLedger.Balanced.of_sent ?_ leaves.sent⟩
      rw [phase]
      exact balanced.hand rfl rfl
  next => cases stepped

/-- The client accepts the message that is being sent. -/
theorem returned (accounted : Accounted ⟨before, ledger, working⟩) {messageId : String}
    (stepped : before.step settings (.returned messageId) = some after) :
    Accounted ⟨after, ledger.note before.worker.phase after.worker.phase (.returned messageId),
      works⟩ := by
  simp only [DaemonRuntime.step] at stepped
  split at stepped
  next item sending _ =>
    obtain ⟨next, attached, rfl⟩ := Option.map_eq_some_iff.mp stepped
    have announcing := DaemonRuntime.attach_announcing attached
    have queue : before.worker.queue = item :: before.worker.due := by
      apply DaemonRuntime.queue_eq
      rw [sending]
      rfl
    refine ⟨accounted.queues.beside announcing ?_, ?_⟩
    · rw [queue]
      exact .refl _
    · refine OutboxLedger.Balanced.of_sent ?_ (SQLiteCodexStore.sent_extends announcing)
      have balanced := accounted.balanced
      rw [sending] at balanced
      exact balanced.accept rfl rfl rfl
  next => cases stepped

/-- The worker marks the row whose message was accepted. -/
theorem mark (accounted : Accounted ⟨before, ledger, working⟩) {now : Instant}
    (stepped : before.step settings (.mark now) = some after) :
    Accounted ⟨after, ledger.note before.worker.phase after.worker.phase (.mark now), works⟩ := by
  simp only [DaemonRuntime.step] at stepped
  split at stepped
  next item marking =>
    obtain ⟨next, marked, rfl⟩ := Option.map_eq_some_iff.mp stepped
    have written := DaemonRuntime.step_markOutboxSent marked
    have queue : before.worker.queue = item :: before.worker.due := by
      apply DaemonRuntime.queue_eq
      rw [marking]
      rfl
    have unsent : before.store.Unsent item :=
      accounted.queues.queued item (queue ▸ List.mem_cons_self)
    refine ⟨accounted.queues.write queue written rfl fun _ => rfl, ?_⟩
    have balanced := accounted.balanced
    rw [marking] at balanced
    apply balanced.mark (unsent.not_sent accounted.queues.numbered)
    intro outboxId
    have sent := SQLiteCodexStore.sent_markOutboxSent unsent now outboxId
    unfold DaemonRuntime.store at sent ⊢
    dsimp only at sent ⊢
    rw [written]
    exact sent
  next => cases stepped

/-- An event of the worker leaves the ledger in balance. -/
theorem runtime (accounted : Accounted ⟨before, ledger, working⟩) {event : DaemonRuntimeEvent}
    (stepped : before.step settings event = some after) :
    Accounted ⟨after, ledger.note before.worker.phase after.worker.phase event, works⟩ := by
  cases event with
  | daemon event => exact accounted.beside stepped
  | poll now =>
      simp only [DaemonRuntime.step] at stepped
      split at stepped
      next waiting _ =>
        cases stepped
        refine ⟨accounted.queues.poll now 50, ?_⟩
        have balanced := accounted.balanced
        rw [waiting] at balanced
        exact ⟨balanced.handed, balanced.accepted⟩
      next => cases stepped
  | take now => exact accounted.take stepped
  | returned messageId => exact accounted.returned stepped
  | mark now => exact accounted.mark stepped
  | failed errorName now =>
      obtain ⟨leaves, looping⟩ := accounted.queues.failed stepped
      apply accounted.giveUp leaves false
      rw [looping]
      rfl

/-- The client has the message of the row that is taken from the worker. -/
theorem unattached (accounted : Accounted ⟨before, ledger, working⟩) {event : DaemonRuntimeEvent}
    (stepped : before.step settings event = some after)
    (returns : before.worker.phase.returnsBefore event = true)
    (free : after.worker.phase.item? = none) :
    Accounted ⟨after, ledger.giveUp before.worker.phase true, works⟩ := by
  cases event with
  | daemon event => exact accounted.giveUp (accounted.queues.daemon stepped) true free
  | failed errorName now => exact accounted.giveUp (accounted.queues.failed stepped).1 true free
  | _ =>
      generalize before.worker.phase = phase at returns
      cases phase <;> cases returns

/-- The task ends: its rows are left to the worker of the next process. -/
theorem ended (accounted : Accounted ⟨before, ledger, working⟩) (returned : Bool) :
    Accounted ⟨{ before with worker := ⟨.waiting, []⟩ },
      ledger.giveUp before.worker.phase returned, works⟩ := by
  have queues : DaemonRuntime.QueuesUnsent { before with worker := ⟨.waiting, []⟩ } :=
    accounted.queues.beside (SQLiteCodexStore.Quiet.refl _) (List.nil_sublist _)
  exact accounted.giveUp ⟨queues, fun _ => Iff.rfl⟩ returned rfl

/-- Every event of a run leaves the ledger in balance, a crash included. -/
theorem step {run next : LedgerRun} {event : LedgerEvent} (accounted : run.Accounted)
    (stepped : run.step settings event = some next) : next.Accounted := by
  cases event with
  | runtime event =>
      simp only [LedgerRun.step] at stepped
      split at stepped
      next => cases stepped
      next =>
        obtain ⟨after, moved, rfl⟩ := Option.map_eq_some_iff.mp stepped
        exact accounted.runtime moved
  | unattached event =>
      simp only [LedgerRun.step] at stepped
      split at stepped
      next => cases stepped
      next after moved =>
        split at stepped
        next returns =>
          cases stepped
          rw [Bool.and_eq_true, Option.isNone_iff_eq_none] at returns
          exact accounted.unattached moved returns.1 returns.2
        next => cases stepped
  | ended returned =>
      simp only [LedgerRun.step] at stepped
      split at stepped
      next =>
        cases stepped
        exact accounted.ended returned
      next => cases stepped

end LedgerRun.Accounted

/-- In every run, over any number of processes, each time that a row was handed to the Lark client
has its one end, and a row was accepted as often as it was left unmarked after an acceptance, and
once more if it is sent or about to be marked. A row that is sent is never taken again. -/
theorem messages_accounted {settings : OutboxSettings} {run : LedgerRun}
    (reachable : (ledgerSystem settings).Reachable run) (outboxId : Nat) :
    run.ledger.handed.count outboxId = run.ledger.accepted.count outboxId +
        run.ledger.unanswered.count outboxId + run.runtime.worker.phase.sendingIds.count outboxId ∧
      run.ledger.accepted.count outboxId = (if run.runtime.store.Sent outboxId then 1 else 0) +
        run.ledger.unmarked.count outboxId + run.runtime.worker.phase.markingIds.count outboxId ∧
      (run.runtime.store.Sent outboxId →
        ∀ item ∈ run.runtime.worker.queue, item.id ≠ outboxId) := by
  have accounted : run.Accounted := by
    refine reachable.invariant LedgerRun.Accounted ?_ fun _ _ _ accounted _ stepped =>
      accounted.step stepped
    rintro _ rfl
    refine ⟨⟨rfl, fun _ absent => ?_, List.nodup_nil⟩, fun _ => rfl, fun _ => rfl⟩
    cases absent
  refine ⟨accounted.balanced.handed outboxId, accounted.balanced.accepted outboxId, ?_⟩
  intro sent item member same
  subst same
  exact (accounted.queues.queued item member).not_sent accounted.queues.numbered sent

/-- The client accepts the message of a row, and its id cannot be attached. Two seconds later the
row is due again, and is sent and marked. -/
def sentAgain : List LedgerEvent :=
  (approvalAsked ++ takesFirst).map .runtime ++
    [.unattached (.failed "OperationalError" 1000000000)] ++
    [DaemonRuntimeEvent.take 1000000000, .poll 1002000000, .take 1002000000, .returned "om-2",
      .mark 1002000000].map .runtime

/-- A row whose message could not be attached is accepted twice and sent once. -/
theorem unattached_message_sent_again : ∃ run : LedgerRun,
    (ledgerSystem pollingSettings).Reachable run ∧ run.ledger.unmarked = [1] ∧
      run.ledger.accepted.count 1 = 2 := by
  have reached : ∃ run, (ledgerSystem pollingSettings).Reachable run ∧
      run.ledger.unmarked = [1] ∧ run.runtime.store.Sent 1 ∧
        run.runtime.worker.phase.markingIds = [] := by
    have checked : (System.follow (LedgerRun.step pollingSettings) (fun _ _ => true)
        ⟨⟨.stopped ⟨.empty, []⟩, ⟨.waiting, []⟩, []⟩, ⟨[], [], [], []⟩, true⟩
        sentAgain).any fun run => decide (run.ledger.unmarked = [1] ∧
          run.runtime.store.Sent 1 ∧ run.runtime.worker.phase.markingIds = []) := by
      decide
    obtain ⟨run, followed, holds⟩ := (Option.any_eq_true _ _).mp checked
    exact ⟨run, ⟨_, rfl, System.reachesVia_of_follow (fun _ _ _ stepped => stepped)
      (fun _ _ _ => trivial) followed⟩, of_decide_eq_true holds⟩
  obtain ⟨run, reachable, unmarked, sent, idle⟩ := reached
  obtain ⟨_, accepted, _⟩ := messages_accounted reachable 1
  rw [unmarked, idle, if_pos sent] at accepted
  exact ⟨run, reachable, unmarked, accepted⟩

end LarkBot
