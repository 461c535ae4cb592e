import LarkBot.Codex.Store.Effects

/-! # Sequences of store operations

The two tables are reached only through the calls of `LarkBot.StoreCall`, in any
order and from any number of connections. Every call is one transaction, except
`resolve_interaction`, whose `SELECT` and `UPDATE` are two calls that other connections can come
between. A restart of the daemon is a `reconcileStartup` on the tables that the last one left.
-/

namespace LarkBot

open Foundation

/-- How the orchestrator calls `update_session_if_status`. -/
inductive SessionUpdate where
  /-- `create_session`, once the thread was started. -/
  | startThread (threadId : String)
  /-- `bind_interactive_thread`, which writes `turn_id` also when it is `None`. -/
  | bindInteractiveThread (threadId : String) (turnId : Option String)
  /-- `create_session`, once the turn was started, and `turn/started`. -/
  | recordTurn (turnId : String)
  deriving DecidableEq, Repr

def SessionUpdate.expectedStatuses : SessionUpdate → List SessionStatus
  | .startThread _ | .bindInteractiveThread _ _ => [.starting]
  | .recordTurn _ => activeStatuses

def SessionUpdate.threadId : SessionUpdate → Option (Option String)
  | .startThread threadId | .bindInteractiveThread threadId _ => some (some threadId)
  | .recordTurn _ => none

def SessionUpdate.turnId : SessionUpdate → Option (Option String)
  | .startThread _ => none
  | .bindInteractiveThread _ turnId => some turnId
  | .recordTurn turnId => some (some turnId)

/-- Every update of a session expects one that is active. -/
theorem SessionUpdate.isActive_of_expected (update : SessionUpdate) {status : SessionStatus}
    (expected : update.expectedStatuses.contains status) : status.isActive := by
  cases update with
  | recordTurn _ => exact expected
  | startThread _ | bindInteractiveThread _ _ =>
      have starting : status = .starting := by
        simpa only [expectedStatuses, List.contains_cons, List.contains_nil, Bool.or_false,
          beq_iff_eq] using expected
      subst starting
      rfl

/-- One call on the store; a connection is a number. -/
inductive StoreCall where
  | createSession (session : CodexSession)
  | updateSessionIfStatus (sessionId : String) (update : SessionUpdate) (updatedAt : Instant)
  | createInteraction (interaction : PendingInteraction)
  | createInteractionAndMarkWaiting (interaction : PendingInteraction)
      (waitingStatus : SessionStatus) (updatedAt : Instant)
  | attachLarkMessageId (interactionId messageId : String)
  | selectKind (connection : Nat) (interactionId : String)
  | resolveSelected (connection : Nat) (decision actorId : String) (resolvedAt : Instant)
  | resolveInteractionAndRefreshSession (interactionId decision actorId : String)
      (updatedAt : Instant) (status : InteractionStatus)
  | cancelInteractionAndRefreshSession (interactionId : String) (updatedAt : Instant)
  | claimSessionTerminal (sessionId : String) (terminalStatus : SessionStatus)
      (summary : String) (pendingStatus : InteractionStatus) (updatedAt : Instant)
  | finishInteractiveTurn (sessionId turnId summary : String) (updatedAt : Instant)
  | expireInteraction (interactionId : String) (resolvedAt : Instant)
  | cancelPendingInteractions (sessionId : String) (status : InteractionStatus)
      (resolvedAt : Instant)
  | reconcileStartup (now : Instant)
  deriving DecidableEq, Repr

/-- The call is one that the orchestrator or the daemon makes: they mark the session of
every interaction that they create. -/
def StoreCall.MarksWaiting : StoreCall → Prop
  | .createInteraction _ => False
  | _ => True

/-- The tables, and what each connection selected for its next update. -/
structure SharedStore where
  tables : CodexTables
  selected : Nat → Option (String × InteractionKind)

/-- A fresh database. -/
def SharedStore.initial : SharedStore := ⟨.empty, fun _ => none⟩

namespace SharedStore

variable (store : SharedStore)

def onConnection (connection : Nat) (selection : Option (String × InteractionKind)) :
    Nat → Option (String × InteractionKind) :=
  fun other => if other = connection then selection else store.selected other

/-- A call on one interaction that returns whether it won. -/
def reporting (interactionId : String) (outcome : Bool × CodexTables) :
    CodexTables × List String :=
  (outcome.2, if outcome.1 then [interactionId] else [])

/-- The tables after a call, and the ids of the interactions it reports as settled.
A call that raises changes and reports nothing. -/
def execute : StoreCall → CodexTables × List String
  | .createSession session =>
      match store.tables.createSession session with
      | .ok tables => (tables, [])
      | .error _ => (store.tables, [])
  | .updateSessionIfStatus sessionId update updatedAt =>
      ((store.tables.updateSessionIfStatus sessionId update.expectedStatuses .running
        update.threadId update.turnId updatedAt).2, [])
  | .createInteraction interaction =>
      match store.tables.createInteraction interaction with
      | .ok tables => (tables, [])
      | .error _ => (store.tables, [])
  | .createInteractionAndMarkWaiting interaction waitingStatus updatedAt =>
      match store.tables.createInteractionAndMarkWaiting interaction waitingStatus updatedAt with
      | .ok (_, tables) => (tables, [])
      | .error _ => (store.tables, [])
  | .attachLarkMessageId interactionId messageId =>
      ((store.tables.attachLarkMessageId interactionId messageId).2, [])
  | .selectKind _ _ => (store.tables, [])
  | .resolveSelected connection decision actorId resolvedAt =>
      match store.selected connection with
      | none => (store.tables, [])
      | some (interactionId, kind) =>
          match store.tables.resolveSelected kind interactionId decision actorId resolvedAt with
          | .ok outcome => reporting interactionId outcome
          | .error _ => (store.tables, [])
  | .resolveInteractionAndRefreshSession interactionId decision actorId updatedAt status =>
      match store.tables.resolveInteractionAndRefreshSession interactionId decision actorId
        updatedAt status with
      | .ok outcome => reporting interactionId outcome
      | .error _ => (store.tables, [])
  | .cancelInteractionAndRefreshSession interactionId updatedAt =>
      reporting interactionId (store.tables.cancelInteractionAndRefreshSession interactionId
        updatedAt)
  | .claimSessionTerminal sessionId terminalStatus summary pendingStatus updatedAt =>
      match store.tables.claimSessionTerminal sessionId terminalStatus summary pendingStatus
        updatedAt with
      | .ok (ids, tables) => (tables, ids.getD [])
      | .error _ => (store.tables, [])
  | .finishInteractiveTurn sessionId turnId summary updatedAt =>
      match store.tables.finishInteractiveTurn sessionId turnId summary updatedAt with
      | .ok (ids, tables) => (tables, ids.getD [])
      | .error _ => (store.tables, [])
  | .expireInteraction interactionId resolvedAt =>
      reporting interactionId (store.tables.expireInteraction interactionId resolvedAt)
  | .cancelPendingInteractions sessionId status resolvedAt =>
      match store.tables.cancelPendingInteractions sessionId status resolvedAt with
      | .ok (ids, tables) => (tables, ids)
      | .error _ => (store.tables, [])
  | .reconcileStartup now =>
      ((store.tables.reconcileStartup now).2, (store.tables.reconcileStartup now).1.interactionIds)

/-- The selection a connection holds after a call: `resolve_interaction` uses it up. -/
def selectionAfter : StoreCall → Nat → Option (String × InteractionKind)
  | .selectKind connection interactionId => store.onConnection connection
      ((store.tables.selectKind interactionId).map (interactionId, ·))
  | .resolveSelected connection _ _ _ => store.onConnection connection none
  | _ => store.selected

def perform (call : StoreCall) : SharedStore :=
  ⟨(store.execute call).1, store.selectionAfter call⟩

/-- The call reports that it settled this interaction. -/
def Reports (call : StoreCall) (interactionId : String) : Prop :=
  interactionId ∈ (store.execute call).2

/-- The store after a sequence of calls. -/
def after (calls : List StoreCall) : SharedStore := calls.foldl perform store

/-- No call leaves the store as it was. -/
@[simp] theorem after_nil : store.after [] = store := rfl

/-- A list of calls has the effect of its first part, and then of its second. -/
theorem after_append (first second : List StoreCall) :
    store.after (first ++ second) = (store.after first).after second :=
  List.foldl_append

/-- One more call has its effect on the store that the earlier calls left. -/
theorem after_concat (calls : List StoreCall) (call : StoreCall) :
    store.after (calls ++ [call]) = (store.after calls).perform call := by
  rw [after_append]
  rfl

/-- The tables after a call are those that its execution computes. -/
@[simp] theorem perform_tables (call : StoreCall) :
    (store.perform call).tables = (store.execute call).1 := rfl

/-- A property that every call preserves holds after every sequence of calls. -/
theorem after_induction {property : SharedStore → Prop} {store : SharedStore}
    (initially : property store)
    (preserved : ∀ before call, property before → property (before.perform call))
    (calls : List StoreCall) : property (store.after calls) := by
  induction calls generalizing store with
  | nil => exact initially
  | cons call calls ih => exact ih (preserved store call initially)

end SharedStore

end LarkBot
