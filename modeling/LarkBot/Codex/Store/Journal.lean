import Mathlib.Data.List.Chain
import LarkBot.Codex.Store.Outbox
import LarkBot.Codex.Store.SessionLifetime
import LarkBot.Codex.Orchestration.Summary

/-! # What the store commits, transaction by transaction

A crash loses no committed transaction, so it matters what the database holds
after each of them. The orchestrator commits in two ways only: a transaction that
may end sessions, followed by the row of every session it ended, and the row of an
event of an active session (`LarkBot.StoreMove`). A journal is a sequence of such
moves with all the databases they commit.
-/

namespace LarkBot

open Foundation

namespace CodexTables

variable {tables after : CodexTables}

/-- A transaction on the tables that ends exactly these sessions, all with this
status, and keeps the rows of the sessions that had ended before. -/
structure Transacts (tables after : CodexTables) (status : SessionStatus)
    (ids : List String) : Prop where
  kept : tables.SessionsKept after
  ends : ∀ session ∈ after.sessions, session.status.isTerminal →
    session ∈ tables.sessions ∨ session.id ∈ ids ∧ session.status = status
  ended : ∀ id ∈ ids, (∃ session ∈ tables.sessions, session.id = id ∧ session.status.isActive) ∧
    ∃ session ∈ after.sessions, session.id = id ∧ session.status = status ∧ status.isTerminal
  nodup : ids.Nodup

/-- A terminal row survives. -/
theorem Transacts.terminal {status : SessionStatus} {ids : List String}
    (transacts : tables.Transacts after status ids) {session : CodexSession}
    (member : session ∈ tables.sessions) (terminal : session.status.isTerminal) :
    session ∈ after.sessions := by
  obtain ⟨next, nextMem, _, same | active⟩ := transacts.kept session member
  · exact same ▸ nextMem
  · rw [SessionStatus.isTerminal_eq_not_isActive, active] at terminal
    cases terminal

/-- A transaction that keeps every session open ends none. -/
theorem Transacts.of_open (kept : tables.SessionsKept after)
    (stays : ∀ session ∈ after.sessions, session.status.isTerminal → session ∈ tables.sessions) :
    tables.Transacts after .running [] where
  kept := kept
  ends session member terminal := Or.inl (stays session member terminal)
  ended _ absent := absurd absent List.not_mem_nil
  nodup := List.nodup_nil

/-- A transaction that leaves the sessions ends none. -/
theorem Transacts.of_eq (rows : after.sessions = tables.sessions) :
    tables.Transacts after .running [] :=
  .of_open (.of_eq rows) fun _ member _ => rows ▸ member

/-- An update that leaves the sessions it selects active ends none. -/
theorem Transacts.of_updateWhere {selected : CodexSession → Bool}
    {change : CodexSession → CodexSession}
    (rows : after.sessions = updateWhere selected change tables.sessions)
    (keepsId : ∀ session, (change session).id = session.id)
    (active : ∀ session ∈ tables.sessions, selected session → session.status.isActive)
    (stays : ∀ session, (change session).status.isActive) :
    tables.Transacts after .running [] := by
  refine .of_open (.of_updateWhere rows keepsId active) fun session member terminal => ?_
  rw [rows] at member
  obtain ⟨old, oldMem, rfl⟩ := mem_updateWhere.mp member
  by_cases chosen : selected old
  · rw [if_pos chosen, SessionStatus.isTerminal_eq_not_isActive, stays old] at terminal
    cases terminal
  · rw [if_neg chosen]
    exact oldMem

/-- Creating an active session ends none. -/
theorem createSession_transacts {session : CodexSession} (active : session.status.isActive)
    (created : tables.createSession session = .ok after) :
    tables.Transacts after .running [] := by
  obtain ⟨_, sessions, _⟩ := insertSession_ok created
  refine .of_open (.of_append sessions) fun other member terminal => ?_
  rw [sessions] at member
  rcases List.mem_append.mp member with old | new
  · exact old
  · obtain rfl := List.mem_singleton.mp new
    rw [SessionStatus.isTerminal_eq_not_isActive, active] at terminal
    cases terminal

/-- An update that expects an active session and leaves it running ends none. -/
theorem updateSessionIfStatus_transacts {sessionId : String} {expected : List SessionStatus}
    {threadId turnId : Option (Option String)} {updatedAt : Instant}
    (active : ∀ status, expected.contains status → status.isActive) :
    tables.Transacts
      (tables.updateSessionIfStatus sessionId expected .running threadId turnId updatedAt).2
      .running [] :=
  .of_updateWhere rfl (fun _ => rfl)
    (fun _ _ chosen => active _ ((Bool.and_eq_true _ _).mp chosen).2) fun _ => rfl

/-- Creating an interaction with its waiting session ends none. -/
theorem createInteractionAndMarkWaiting_transacts {interaction : PendingInteraction}
    {waitingStatus : SessionStatus} {updatedAt : Instant} {created : Bool}
    (done : tables.createInteractionAndMarkWaiting interaction waitingStatus updatedAt =
      .ok (created, after)) : tables.Transacts after .running [] := by
  cases created with
  | false => exact .of_eq (congrArg sessions (createInteractionAndMarkWaiting_false done))
  | true =>
      obtain ⟨_, _, active, sessions, _⟩ := createInteractionAndMarkWaiting_true done
      exact .of_updateWhere sessions (fun _ => rfl)
        (fun _ _ chosen => ((Bool.and_eq_true _ _).mp chosen).2) fun _ => active

/-- Claiming an interaction leaves its session active, so it ends none. -/
theorem Claimed.transacts {row : PendingInteraction}
    {change : PendingInteraction → PendingInteraction} {updatedAt : Instant}
    (claimed : tables.Claimed row change updatedAt after) :
    tables.Transacts after .running [] :=
  .of_updateWhere claimed.sessions (fun _ => rfl)
    (fun _ _ chosen => ((Bool.and_eq_true _ _).mp chosen).2) fun _ => nextStatus_isActive _

/-- Resolving an interaction ends no session. -/
theorem resolveInteractionAndRefreshSession_transacts {interactionId decision actorId : String}
    {updatedAt : Instant} {status : InteractionStatus} {won : Bool}
    (done : tables.resolveInteractionAndRefreshSession interactionId decision actorId updatedAt
      status = .ok (won, after)) : tables.Transacts after .running [] := by
  cases won with
  | false => exact .of_eq (congrArg sessions (resolveInteractionAndRefreshSession_false done).1)
  | true =>
      obtain ⟨_, _, _, _, _, claimed⟩ := resolveInteractionAndRefreshSession_true done
      exact claimed.transacts

/-- Cancelling an interaction ends no session. -/
theorem cancelInteractionAndRefreshSession_transacts (interactionId : String)
    (updatedAt : Instant) : tables.Transacts
      (tables.cancelInteractionAndRefreshSession interactionId updatedAt).2 .running [] := by
  rcases done : tables.cancelInteractionAndRefreshSession interactionId updatedAt with ⟨won, after⟩
  cases won with
  | false => exact .of_eq (congrArg sessions (cancelInteractionAndRefreshSession_false done).1)
  | true =>
      obtain ⟨_, _, claimed⟩ := cancelInteractionAndRefreshSession_true done
      exact claimed.transacts

/-- Finishing an interactive turn leaves its session running. -/
theorem finishInteractiveTurn_transacts {sessionId turnId summary : String} {updatedAt : Instant}
    {ids : List String} (done : tables.finishInteractiveTurn sessionId turnId summary updatedAt =
      .ok (some ids, after)) : tables.Transacts after .running [] := by
  obtain ⟨_, _, sessions, _⟩ := finishInteractiveTurn_some done
  exact .of_updateWhere sessions (fun _ => rfl)
    (fun _ _ chosen => ((Bool.and_eq_true _ _).mp chosen).2) fun _ => rfl

/-- The claim of an active session ends that session. -/
theorem claimSessionTerminal_transacts {sessionId summary : String}
    {terminalStatus : SessionStatus} {pendingStatus : InteractionStatus} {updatedAt : Instant}
    {ids : List String}
    (done : tables.claimSessionTerminal sessionId terminalStatus summary pendingStatus updatedAt =
      .ok (some ids, after)) : tables.Transacts after terminalStatus [sessionId] := by
  obtain ⟨terminal, _, ⟨session, member, same, active⟩, _, sessions, _⟩ :=
    claimSessionTerminal_some done
  have chosen : (session.id == sessionId && session.status.isActive) = true := by
    rw [same, active, beq_self_eq_true, Bool.and_self]
  refine ⟨.of_updateWhere sessions (fun _ => rfl)
    (fun _ _ chosen => ((Bool.and_eq_true _ _).mp chosen).2), ?_, ?_, List.nodup_singleton _⟩
  · intro next nextMem _
    rw [sessions] at nextMem
    obtain ⟨old, oldMem, rfl⟩ := mem_updateWhere.mp nextMem
    by_cases selected : (old.id == sessionId && old.status.isActive) = true
    · rw [if_pos selected]
      have sameId : old.id = sessionId := beq_iff_eq.mp ((Bool.and_eq_true _ _).mp selected).1
      exact Or.inr ⟨List.mem_singleton.mpr sameId, rfl⟩
    · rw [if_neg selected]
      exact Or.inl oldMem
  · intro id listed
    obtain rfl := List.mem_singleton.mp listed
    refine ⟨⟨session, member, same, active⟩, { session with
      status := terminalStatus, summary := safeSummary summary, updatedAt }, ?_, same, rfl,
      terminal⟩
    rw [sessions]
    exact mem_updateWhere_of_selected member chosen

/-- A restart ends as many sessions as are active. -/
theorem length_reconcileStartup (tables : CodexTables) (now : Instant) :
    (tables.reconcileStartup now).1.sessionIds.length =
      tables.sessions.countP fun session => session.status.isActive := by
  simp only [reconcileStartup, List.length_insertionSort, List.length_map,
    List.countP_eq_length_filter]

/-- A restart ends every active session. -/
theorem reconcileStartup_transacts (tables : CodexTables) (now : Instant) :
    tables.Transacts (tables.reconcileStartup now).2 .interrupted
      (tables.reconcileStartup now).1.sessionIds := by
  have listed : ∀ id, id ∈ (tables.reconcileStartup now).1.sessionIds ↔
      ∃ session ∈ tables.sessions, session.status.isActive ∧ session.id = id := by
    intro id
    simp only [reconcileStartup, List.mem_insertionSort, List.mem_map, List.mem_filter, and_assoc]
  refine ⟨.of_updateWhere rfl (fun _ => rfl) fun _ _ active => active, ?_, ?_, ?_⟩
  · intro next nextMem _
    obtain ⟨old, oldMem, rfl⟩ := mem_updateWhere.mp nextMem
    by_cases active : old.status.isActive
    · rw [if_pos active]
      exact Or.inr ⟨(listed _).mpr ⟨old, oldMem, active, rfl⟩, rfl⟩
    · rw [if_neg active]
      exact Or.inl oldMem
  · intro id present
    obtain ⟨session, member, active, rfl⟩ := (listed id).mp present
    exact ⟨⟨session, member, rfl, active⟩, _, mem_updateWhere_of_selected member active, rfl, rfl,
      rfl⟩
  · apply (List.perm_insertionSort _ _).nodup_iff.mpr
    have apart := tables.sessionIds.filter fun session => session.status.isActive
    exact List.pairwise_map.mpr (apart.imp fun different => different rfl rfl)

end CodexTables

/-- The type of the outbox rows of an event. -/
def OrchestratorEventType.notification (eventType : OrchestratorEventType) : String :=
  "orchestrator:" ++ eventType.value

/-- The event that reports a session which ended with this status. -/
def sessionEndEvent (status : SessionStatus) : OrchestratorEventType :=
  if status = .interrupted then .sessionInterrupted else .sessionCompleted

/-- The event does not report the end of a session. -/
def OrchestratorEventType.IsInterim (eventType : OrchestratorEventType) : Prop :=
  eventType ≠ .sessionCompleted ∧ eventType ≠ .sessionInterrupted

/-- Events of different types have rows of different types. -/
theorem OrchestratorEventType.notification_injective :
    Function.Injective OrchestratorEventType.notification := by
  intro first second same
  cases first <;> cases second <;> first | rfl | exact absurd same (by decide)

/-- The row reports the end of the session. -/
def NotificationOutboxItem.ReportsEnd (item : NotificationOutboxItem) (sessionId : String) :
    Prop :=
  item.sessionId = some sessionId ∧
    (item.notificationType = OrchestratorEventType.sessionCompleted.notification ∨
      item.notificationType = OrchestratorEventType.sessionInterrupted.notification)

instance (item : NotificationOutboxItem) (sessionId : String) :
    Decidable (item.ReportsEnd sessionId) :=
  inferInstanceAs (Decidable (_ ∧ _))

namespace SQLiteCodexStore

/-- The databases after each row of a list was enqueued. -/
def afterEach (store : SQLiteCodexStore) : List NotificationOutboxItem → List SQLiteCodexStore
  | [] => []
  | item :: rest =>
      { store with outbox := store.outbox ++ [item] } ::
        afterEach { store with outbox := store.outbox ++ [item] } rest

end SQLiteCodexStore

/-- A move of the store that ends these sessions, with the databases it commits. -/
inductive StoreMove (store : SQLiteCodexStore) :
    List String → List SQLiteCodexStore → SQLiteCodexStore → Prop
  /-- A transaction on the tables, and the rows of the sessions it ended. -/
  | transact (tables : CodexTables) (status : SessionStatus) (ids : List String)
      (items : List NotificationOutboxItem) : store.tables.Transacts tables status ids →
      items.map NotificationOutboxItem.sessionId = ids.map some →
      (∀ item ∈ items, item.notificationType = (sessionEndEvent status).notification) →
      StoreMove store ids
        ({ store with tables } :: SQLiteCodexStore.afterEach { store with tables } items)
        { store with tables, outbox := store.outbox ++ items }
  /-- The row of an event of an active session. -/
  | announce (item : NotificationOutboxItem) (session : CodexSession)
      (eventType : OrchestratorEventType) : session ∈ store.tables.sessions →
      session.status.isActive → item.sessionId = some session.id → eventType.IsInterim →
      item.notificationType = eventType.notification →
      StoreMove store [] [{ store with outbox := store.outbox ++ [item] }]
        { store with outbox := store.outbox ++ [item] }

/-- A sequence of moves that end one session at a time, with all the databases they commit. -/
inductive Journal (start : SQLiteCodexStore) : List SQLiteCodexStore → SQLiteCodexStore → Prop
  | nil : Journal start [] start
  | move {ids : List String} {earlier commits : List SQLiteCodexStore}
      {middle next : SQLiteCodexStore} : Journal start earlier middle → ids.length ≤ 1 →
      StoreMove middle ids commits next → Journal start (earlier ++ commits) next

namespace Journal

variable {start store : SQLiteCodexStore} {commits : List SQLiteCodexStore}

/-- What every move preserves holds at the end of a journal. -/
theorem invariant (journal : Journal start commits store) (property : SQLiteCodexStore → Prop)
    (initially : property start)
    (preserved : ∀ before ids commits after, property before →
      StoreMove before ids commits after → property after) : property store := by
  induction journal with
  | nil => exact initially
  | move _ _ move ih => exact preserved _ _ _ _ ih move

/-- What holds of all that a move commits holds of all that a journal commits. -/
theorem commits_of_moves (journal : Journal start commits store)
    (property committed : SQLiteCodexStore → Prop) (initially : property start)
    (preserved : ∀ before ids commits after, property before →
      StoreMove before ids commits after →
      property after ∧ ∀ database ∈ commits, committed database) :
    ∀ database ∈ commits, committed database := by
  induction journal with
  | nil => exact fun _ absent => absurd absent List.not_mem_nil
  | move earlier _ move ih =>
      intro database member
      have before := earlier.invariant property initially
        fun _ _ _ _ holds move => (preserved _ _ _ _ holds move).1
      rcases List.mem_append.mp member with old | new
      · exact ih database old
      · exact (preserved _ _ _ _ before move).2 database new

/-- What moves keep between every two databases that follow each other, a journal keeps. -/
theorem isChain_of_moves (journal : Journal start commits store)
    (property : SQLiteCodexStore → Prop)
    (between : SQLiteCodexStore → SQLiteCodexStore → Prop) (initially : property start)
    (preserved : ∀ before ids commits after, property before → ids.length ≤ 1 →
      StoreMove before ids commits after →
      property after ∧ (before :: commits).IsChain between ∧
        ∃ rest, before :: commits = rest ++ [after]) :
    property store ∧ (start :: commits).IsChain between ∧
      ∃ rest, start :: commits = rest ++ [store] := by
  induction journal with
  | nil => exact ⟨initially, .singleton _, [], rfl⟩
  | move _ single move ih =>
      obtain ⟨before, chain, rest, ends⟩ := ih
      obtain ⟨after, links, later, final⟩ := preserved _ _ _ _ before single move
      refine ⟨after, ?_, rest ++ later, ?_⟩
      · rw [← List.cons_append, ends, List.append_assoc, List.singleton_append, List.isChain_split]
        exact ⟨ends ▸ chain, links⟩
      · rw [← List.cons_append, ends, List.append_assoc, List.singleton_append, final,
          List.append_assoc]

end Journal

end LarkBot
