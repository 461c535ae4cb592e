import LarkBot.Codex.Store.Kept
import LarkBot.Server.Daemon.Process

/-! # Hook events

A hook process sends its event to the daemon, and leaves it in the spool directory when that
fails; the next start of the daemon drains the spool. Both ways record the id of the event in
one table, in one transaction, and enqueue its notification in the next. An event whose
ingestion ends between the two is recorded, and every retry takes it for a duplicate
(`LarkBot.interrupted_hook_lost`); where none does, a recorded event has its row
(`LarkBot.recorded_hook_enqueued`).
-/

namespace LarkBot

open Foundation

def hookEvents : List String := ["SessionStart", "PermissionRequest", "Stop"]

/-- The key of a hook event in `codex_event_dedupe`. -/
def hookKey (eventId : String) : String := "hook:" ++ eventId

/-- `isinstance(event_id, str) and event_id`. -/
def eventIdOf (payload : JsonObject) : Option String :=
  match dictGet payload "event_id" with
  | some (.str eventId) => if eventId = "" then none else some eventId
  | _ => none

/-- What a file of the spool directory holds. -/
inductive SpoolContent where
  /-- `read_text` raises `UnicodeDecodeError`. -/
  | undecodable
  /-- `json.loads` raises `JSONDecodeError`. -/
  | noJson
  | json (value : Json)
  /-- An object with these fields, but for an `event_id` with an unpaired surrogate. -/
  | surrogateId (fields : JsonObject)
  deriving DecidableEq

/-- What a file holds that was not written to its end. -/
def SpoolContent.isTorn : SpoolContent → Bool
  | .undecodable => true
  | .noJson => true
  | _ => false

structure SpoolFile where
  name : String
  isSymlink : Bool
  size : Nat
  content : SpoolContent
  deriving DecidableEq

def maxHookBytes : Nat := 64 * 1024

/-- The body of a request to `/hooks`. -/
inductive HookBody where
  | tooLarge
  | noJson
  | json (value : Json)
  /-- An object with these fields, but for an `event_id` with an unpaired surrogate. -/
  | surrogateId (fields : JsonObject)
  deriving DecidableEq

/-- A hook event: the key under which it is recorded, if it has an id, and its name. -/
structure HookRequest where
  key : Option String
  name : String
  deriving DecidableEq

/-- The first name in the payload of a request. -/
def requestedName (payload : JsonObject) : Option String :=
  ["hook_event_name", "event_name", "hook_name"].findSome? fun key =>
    match dictGet payload key with | some (.str name) => some name | _ => none

/-- The event of a request, up to the store, or the status code of its refusal. An id with an
unpaired surrogate is no text for the store: `record_event_once` raises, and changes nothing. -/
def HookBody.request : HookBody → Except Nat HookRequest
  | .tooLarge => .error 413
  | .noJson => .error 400
  | .json (.obj payload) =>
      match requestedName payload with
      | some name =>
          if name ∈ hookEvents then .ok ⟨(eventIdOf payload).map hookKey, name⟩ else .error 422
      | none => .error 422
  | .json _ => .error 400
  | .surrogateId fields =>
      match requestedName fields with
      | some name => .error (if name ∈ hookEvents then 500 else 422)
      | none => .error 422

/-- The event of a spooled payload, if it names one; a list or an object cannot be looked up. -/
def spooledRequest (payload : JsonObject) : Except PyError (Option HookRequest) :=
  match dictGet payload "hook_event_name" with
  | some (.str name) =>
      .ok (if name ∈ hookEvents then some ⟨(eventIdOf payload).map hookKey, name⟩ else none)
  | some (.arr _) => .error ⟨.typeError, "unhashable type: 'list'"⟩
  | some (.obj _) => .error ⟨.typeError, "unhashable type: 'dict'"⟩
  | _ => .ok none

/-- The event of a spooled payload whose id has an unpaired surrogate: `record_event_once` raises
for it, and changes nothing. -/
def surrogateRequest (fields : JsonObject) : Except PyError (Option HookRequest) :=
  match spooledRequest fields with
  | .ok (some _) => .error ⟨.other "UnicodeEncodeError", ""⟩
  | looked => looked

/-- The event of a file, if it is read and holds one. -/
def SpoolFile.request (file : SpoolFile) : Except PyError (Option HookRequest) :=
  if file.isSymlink ∨ maxHookBytes < file.size then .ok none
  else
    match file.content with
    | .undecodable => .error ⟨.other "UnicodeDecodeError", ""⟩
    | .noJson => .error ⟨.other "JSONDecodeError", ""⟩
    | .json (.obj payload) => spooledRequest payload
    | .json _ => .ok none
    | .surrogateId fields => surrogateRequest fields

/-- The classes that `except (OSError, UnicodeError, json.JSONDecodeError)` catches. -/
def spoolErrors : List String :=
  ["OSError", "BlockingIOError", "ChildProcessError", "ConnectionError", "BrokenPipeError",
    "ConnectionAbortedError", "ConnectionRefusedError", "ConnectionResetError", "FileExistsError",
    "FileNotFoundError", "InterruptedError", "IsADirectoryError", "NotADirectoryError",
    "PermissionError", "ProcessLookupError", "TimeoutError", "UnicodeError", "UnicodeDecodeError",
    "UnicodeEncodeError", "UnicodeTranslateError", "JSONDecodeError"]

/-- The next operation of an ingestion. -/
inductive HookProgress where
  | record (key : String)
  /-- The id of the event, if it has one, was recorded. -/
  | enqueue (key : Option String)
  | unlink
  deriving DecidableEq

/-- An event that is being ingested, from a request or from a file of the spool. -/
structure HookIngestion where
  name : String
  file : Option SpoolFile
  progress : HookProgress
  deriving DecidableEq

/-- An event comes in hand. -/
def HookRequest.ingestion (request : HookRequest) (file : Option SpoolFile) : HookIngestion where
  name := request.name
  file := file
  progress := match request.key with | some key => .record key | none => .enqueue none

/-- What the daemon does about hooks. -/
inductive HookPhase where
  | stopped
  /-- `_drain_spool`, with the files that follow the one in hand. -/
  | draining (ingestion : Option HookIngestion) (rest : List SpoolFile)
  | serving (ingestion : Option HookIngestion)
  deriving DecidableEq

def HookPhase.ingestion : HookPhase → Option HookIngestion
  | .stopped => none
  | .draining ingestion _ => ingestion
  | .serving ingestion => ingestion

/-- The phase with another event in hand, or with none. -/
def HookPhase.goOn (phase : HookPhase) (ingestion : Option HookIngestion) : HookPhase :=
  match phase with
  | .stopped => .stopped
  | .draining _ rest => .draining ingestion rest
  | .serving _ => .serving ingestion

/-- The database, the spool directory, the payloads that hook processes have sent, and the
daemon. The outbox rows that were enqueued for hooks, under the keys of their events, and the
keys of the events whose ingestion succeeded are history. -/
structure HookState where
  database : Database
  spool : List SpoolFile
  sent : List JsonObject
  phase : HookPhase
  enqueued : List (Option String × Nat)
  succeeded : List String

/-- The operation records an id like those of `ingest_hook` and `_drain_spool`. -/
def StoreOperation.recordsHook : StoreOperation → Bool
  | .recordEventOnce eventId _ => "hook:".toList.isPrefixOf eventId.toList
  | _ => false

inductive HookEvent where
  /-- `deliver_sanitized_hook` sends a payload. -/
  | send (payload : JsonObject)
  /-- The sender returns. -/
  | answered (payload : JsonObject)
  /-- The sender raises, whatever became of the request, and the payload is spooled. -/
  | spool (payload : JsonObject) (name : String) (size : Nat)
  /-- The sender raises, and the payload cannot be spooled. -/
  | lose (payload : JsonObject)
  /-- `write_text` raises after it created the file: the disk is full, or the payload has a text
  with an unpaired surrogate. -/
  | tear (name : String) (size : Nat) (content : SpoolContent)
  /-- The daemon begins to handle a request. -/
  | request (body : HookBody)
  /-- The next operation of the event in hand, at this time, with the faults that it meets. -/
  | proceed (now : Instant) (faults : List (Option PyError))
  /-- The next file of the spool is read, unless that fails. -/
  | drainNext (fault : Option PyError)
  | start
  | stop
  /-- Other code performs an operation, whose statements raise these faults; the daemon awaits
  nothing while an event is in hand. -/
  | other (operation : StoreOperation) (faults : List (Option PyError))

namespace HookState

/-- A failed ingestion: a request is answered with an error; the drain goes on with the next
file, or raises and `start()` with it. -/
def fail (state : HookState) (error : PyError) : HookState :=
  match state.phase with
  | .draining _ rest =>
      if error.errorType.name ∈ spoolErrors then { state with phase := .draining none rest }
      else { state with phase := .stopped }
  | .serving _ => { state with phase := .serving none }
  | .stopped => state

/-- An event was ingested, now or before; a file is still to be unlinked. -/
def finish (state : HookState) (ingestion : HookIngestion) (key : Option String) : HookState :=
  { state with
    phase := state.phase.goOn
      (ingestion.file.map fun file => { ingestion with file := some file, progress := .unlink })
    succeeded := state.succeeded ++ key.toList }

/-- The notification of a hook event. -/
def notificationOf (delay : Instant) (name : String) (now : Instant) :
    SQLiteCodexStore.OutboxEntry :=
  Daemon.ownNotification ("hook:" ++ name) ("Codex hook " ++ name) (now + delay) now

/-- The next operation of an ingestion. -/
def operate (delay : Instant) (state : HookState) (ingestion : HookIngestion) (now : Instant)
    (faults : List (Option PyError)) : HookState :=
  match ingestion.progress with
  | .record key =>
      match (StoreProgram.recordEventOnce key now).outcome ⟨state.database, faults⟩ with
      | (.ok true, after) => { state with
          database := after.data
          phase := state.phase.goOn (some { ingestion with progress := .enqueue (some key) }) }
      | (.ok false, after) => { state with database := after.data }.finish ingestion (some key)
      | (.error error, after) => { state with database := after.data }.fail error
  | .enqueue key =>
      match (StoreProgram.enqueueOutbox (notificationOf delay ingestion.name now)).outcome
        ⟨state.database, faults⟩ with
      | (.ok outboxId, after) =>
          { state with
            database := after.data
            enqueued := state.enqueued ++ [(key, outboxId)] }.finish ingestion key
      | (.error error, after) => { state with database := after.data }.fail error
  | .unlink =>
      match faults.head?.join with
      | some error => state.fail error
      | none => { state with
          spool := state.spool.filter fun file => some file.name ≠ ingestion.file.map SpoolFile.name
          phase := state.phase.goOn none }

/-- The state after an event, if the event can happen. -/
def step (delay : Instant) (state : HookState) : HookEvent → Option HookState
  | .send payload => some { state with sent := state.sent ++ [payload] }
  | .answered payload =>
      if payload ∈ state.sent then some { state with sent := state.sent.erase payload } else none
  | .spool payload name size =>
      if payload ∈ state.sent ∧ ∀ file ∈ state.spool, file.name ≠ name then
        some { state with
          sent := state.sent.erase payload
          spool := state.spool ++ [⟨name, false, size, .json (.obj payload)⟩] }
      else none
  | .lose payload =>
      if payload ∈ state.sent then some { state with sent := state.sent.erase payload } else none
  | .tear name size content =>
      if content.isTorn ∧ ∀ file ∈ state.spool, file.name ≠ name then
        some { state with spool := state.spool ++ [⟨name, false, size, content⟩] }
      else none
  | .request body =>
      match state.phase with
      | .serving none =>
          match body.request with
          | .ok request =>
              some { state with phase := .serving (some (HookRequest.ingestion request none)) }
          | .error _ => some state
      | _ => none
  | .proceed now faults =>
      state.phase.ingestion.map fun ingestion => state.operate delay ingestion now faults
  | .drainNext fault =>
      match state.phase with
      | .draining none [] => some { state with phase := .serving none }
      | .draining none (file :: rest) =>
          let read := { state with phase := .draining none rest }
          match fault, file.request with
          | some error, _ => some (read.fail error)
          | none, .error error => some (read.fail error)
          | none, .ok none => some read
          | none, .ok (some request) =>
              some { read with
                phase := .draining (some (HookRequest.ingestion request (some file))) rest }
      | _ => none
  | .start =>
      match state.phase with
      | .stopped => some { state with
          phase := .draining none (state.spool.insertionSort fun first second =>
            first.name ≤ second.name) }
      | _ => none
  | .stop => some { state with phase := .stopped }
  | .other operation faults =>
      if state.phase.ingestion = none then
        some { state with
          database := (operation.perform.outcome ⟨state.database, faults⟩).2.data }
      else none

end HookState

/-- The runs of hook processes and the daemon, on a database that records no hook event yet. -/
def hookSystem (delay : Instant) : System HookState HookEvent where
  initial state := ∃ database spool, state = ⟨database, spool, [], .stopped, [], []⟩ ∧
    ∀ eventId, ¬ database.Recorded (hookKey eventId)
  step before event after := before.step delay event = some after

section Operations

variable {key : String} {now : Instant} {database : Database} {faults : List (Option PyError)}
  {after : Setting Database PyError}

/-- `record_event_once` that returned has recorded the event, or found it recorded. -/
theorem recordEventOnce_ok {recorded : Bool}
    (ran : (StoreProgram.recordEventOnce key now).outcome ⟨database, faults⟩ =
      (.ok recorded, after)) :
    recorded = ((database.insertEventOrIgnore ⟨key, .instant now⟩).1 == 1) ∧
      after.data = (database.insertEventOrIgnore ⟨key, .instant now⟩).2 := by
  obtain ⟨count, between, began, ended⟩ := Program.bind_ok ran
  obtain ⟨opened, same, inserted⟩ := StoreProgram.connection_ok began
  have effect := Except.ok.inj (Program.statement_ok inserted)
  rw [same] at effect
  obtain ⟨answer, rfl⟩ := Prod.mk.inj ended
  rw [effect]
  exact ⟨(Except.ok.inj answer).symm, rfl⟩

/-- A new event is recorded. -/
theorem recordEventOnce_true
    (ran : (StoreProgram.recordEventOnce key now).outcome ⟨database, faults⟩ = (.ok true, after)) :
    ¬ database.Recorded key ∧ (∀ other, after.data.Recorded other ↔
      database.Recorded other ∨ other = key) ∧ after.data.outbox = database.outbox := by
  obtain ⟨counted, changed⟩ := recordEventOnce_ok ran
  rw [changed]
  unfold Database.insertEventOrIgnore at counted ⊢
  split
  next fresh =>
    refine ⟨?_, fun other => ?_, rfl⟩
    · rintro ⟨row, member, same⟩
      exact fresh row member same
    · unfold Database.Recorded
      simp only [List.mem_append, List.mem_singleton, or_and_right, exists_or, exists_eq_left]
      exact or_congr_right eq_comm
  next known =>
    rw [dif_neg known] at counted
    cases counted

/-- An event that is recorded already is left alone. -/
theorem recordEventOnce_false
    (ran : (StoreProgram.recordEventOnce key now).outcome ⟨database, faults⟩ = (.ok false, after)) :
    database.Recorded key ∧ after.data = database := by
  obtain ⟨counted, changed⟩ := recordEventOnce_ok ran
  unfold Database.insertEventOrIgnore at counted changed
  split at counted
  next => cases counted
  next known =>
    rw [dif_neg known] at changed
    refine ⟨?_, changed⟩
    by_contra unknown
    exact known fun old member same => unknown ⟨old, member, same⟩

/-- `record_event_once` that raised has left the tables. -/
theorem recordEventOnce_error {error : PyError}
    (ran : (StoreProgram.recordEventOnce key now).outcome ⟨database, faults⟩ =
      (.error error, after)) :
    after.data = database :=
  (StoreProgram.recordEventOnce_allOrNothing key now).raises _ _ _ ran

/-- Inserting an outbox row adds it to the others under the next id. -/
theorem Database.insertOutbox_ok {row : OutboxRow} {outboxId : Nat} {inserted : Database}
    (effect : database.insertOutbox row = .ok (outboxId, inserted)) :
    inserted.events = database.events ∧
      inserted.outbox.rows = database.outbox.rows ++ [{ row with id := outboxId }] := by
  unfold insertOutbox at effect
  split at effect
  next =>
    cases effect
    exact ⟨rfl, rfl⟩
  next => cases effect

/-- An outbox row that names neither a session nor an interaction violates no key. -/
theorem Database.insertOutbox_of_none {row : OutboxRow} (sessionId : row.sessionId = none)
    (interactionId : row.interactionId = none) :
    database.insertOutbox row = .ok (database.outbox.last + 1, { database with
      outbox := database.outbox.insert { row with id := database.outbox.last + 1 } rfl }) := by
  apply if_pos
  rw [sessionId, interactionId]
  exact ⟨fun _ absent => (Option.not_mem_none _ absent).elim,
    fun _ absent => (Option.not_mem_none _ absent).elim⟩

variable {name : String} {delay : Instant}

/-- The notification of a hook event is one new row. -/
theorem enqueueOutbox_ok {outboxId : Nat}
    (ran : (StoreProgram.enqueueOutbox (HookState.notificationOf delay name now)).outcome
      ⟨database, faults⟩ = (.ok outboxId, after)) :
    after.data.events = database.events ∧
      (∀ row ∈ database.outbox.rows, row ∈ after.data.outbox.rows) ∧
      ∃ row ∈ after.data.outbox.rows, row.id = outboxId := by
  obtain ⟨opened, same, inserted⟩ := StoreProgram.connection_ok ran
  have effect := Program.statement_ok inserted
  rw [same] at effect
  obtain ⟨events, rows⟩ := Database.insertOutbox_ok effect
  rw [rows]
  exact ⟨events, fun row member => List.mem_append_left _ member, _,
    List.mem_append_right _ (List.mem_singleton_self _), rfl⟩

/-- `enqueue_outbox` that raised has left the tables. -/
theorem enqueueOutbox_error {error : PyError}
    (ran : (StoreProgram.enqueueOutbox (HookState.notificationOf delay name now)).outcome
      ⟨database, faults⟩ = (.error error, after)) : after.data = database :=
  (StoreProgram.enqueueOutbox_allOrNothing _).raises _ _ _ ran

variable (database now name delay) in
/-- Without faults, the notification is enqueued. -/
theorem enqueueOutbox_faultless (faultless : ∀ fault ∈ faults, fault = none) :
    ∃ outboxId after, (StoreProgram.enqueueOutbox (HookState.notificationOf delay name now)).outcome
      ⟨database, faults⟩ = (.ok outboxId, after) := by
  have later : ∀ fault ∈ faults.tail, fault = none := fun fault member =>
    faultless fault (List.mem_of_mem_tail member)
  have opens : (Program.select fun _ : Database => ()).outcome ⟨database, faults⟩ =
      (.ok (), ⟨database, faults.tail⟩) := Program.statement_faultless faultless rfl
  unfold StoreProgram.enqueueOutbox StoreProgram.connection
  rw [Program.outcome_transaction, Program.outcome_bind, opens]
  dsimp only
  rcases ended : (Program.statement _).outcome ⟨database, faults.tail⟩ with
      ⟨error | outboxId, after⟩
  · have refused := Program.statement_raises later ended
    rw [Database.insertOutbox_of_none rfl rfl] at refused
    cases refused
  · exact ⟨outboxId, after, rfl⟩

end Operations

/-- The key of an event that an ingestion records or recorded. -/
def HookProgress.key : HookProgress → Option String
  | .record key => some key
  | .enqueue key => key
  | .unlink => none

/-- The key that was recorded, when its row is still to be enqueued. -/
def HookProgress.recorded : HookProgress → Option String
  | .enqueue key => key
  | _ => none

namespace HookState

/-- The event whose ingestion is between its two transactions. -/
def between (state : HookState) : Option String :=
  state.phase.ingestion.bind fun ingestion => ingestion.progress.recorded

/-- The outbox rows that were enqueued for the event with this key. -/
def rowsFor (state : HookState) (key : String) : List Nat :=
  (state.enqueued.filter fun entry => entry.1 == some key).map Prod.snd

/-- What became of the event with this key. -/
inductive Fate (state : HookState) (key : String) : Prop
  | unknown : ¬ state.database.Recorded key → state.rowsFor key = [] → state.between ≠ some key →
      Fate state key
  | halfway : state.database.Recorded key → state.rowsFor key = [] → state.between = some key →
      Fate state key
  | enqueued (outboxId : Nat) : state.database.Recorded key → state.rowsFor key = [outboxId] →
      state.between ≠ some key → Fate state key

/-- Every recorded event has one row, but for the one in hand, and so has every event that was
ingested. -/
structure Accounted (state : HookState) : Prop where
  keyed : ∀ ingestion ∈ state.phase.ingestion, ∀ key ∈ ingestion.progress.key,
    ∃ eventId, key = hookKey eventId
  fate : ∀ eventId, state.Fate (hookKey eventId)
  stored : ∀ entry ∈ state.enqueued, ∃ row ∈ state.database.outbox.rows, row.id = entry.2
  succeeded : ∀ key ∈ state.succeeded, (∃ eventId, key = hookKey eventId) ∧
    state.database.Recorded key ∧ state.between ≠ some key

/-- An ingestion is not interrupted between its two transactions: after it recorded its event,
the process goes on, and the store operation that enqueues the row meets no fault. Nor does
other code record the id of a hook event, as the router would for a Lark event of that id. -/
def Uninterrupted (state : HookState) : HookEvent → Prop
  | .stop => state.between = none
  | .proceed _ faults => state.between ≠ none → ∀ fault ∈ faults, fault = none
  | .other operation _ => operation.recordsHook = false
  | _ => True

variable {state after : HookState}

/-- Nothing is between its two transactions when nothing is in hand. -/
theorem between_of_none (idle : state.phase.ingestion = none) : state.between = none := by
  unfold between
  rw [idle]
  rfl

/-- What is in hand is between its two transactions once it is recorded. -/
theorem between_of_some {ingestion : HookIngestion}
    (inHand : state.phase.ingestion = some ingestion) :
    state.between = ingestion.progress.recorded := by
  unfold between
  rw [inHand]
  rfl

/-- A phase that goes on has its next ingestion in hand. -/
theorem ingestion_goOn {phase : HookPhase} {ingestion : HookIngestion}
    (inHand : phase.ingestion = some ingestion) (next : Option HookIngestion) :
    (phase.goOn next).ingestion = next := by
  cases phase with
  | stopped => cases inHand
  | draining => rfl
  | serving => rfl

/-- A failure changes the phase only. -/
theorem fail_spec (state : HookState) (error : PyError) :
    (state.fail error).phase.ingestion = none ∧ (state.fail error).database = state.database ∧
      (state.fail error).enqueued = state.enqueued ∧
      (state.fail error).succeeded = state.succeeded := by
  unfold fail
  split
  next =>
    split
    · exact ⟨rfl, rfl, rfl, rfl⟩
    · exact ⟨rfl, rfl, rfl, rfl⟩
  next => exact ⟨rfl, rfl, rfl, rfl⟩
  next stopped =>
    refine ⟨?_, rfl, rfl, rfl⟩
    rw [stopped]
    rfl

namespace Accounted

/-- A step that records no hook event, enqueues no row, and keeps the event in hand. -/
theorem keep (accounted : state.Accounted)
    (recorded : ∀ eventId, after.database.Recorded (hookKey eventId) ↔
      state.database.Recorded (hookKey eventId))
    (outbox : ∀ row ∈ state.database.outbox.rows, ∃ kept ∈ after.database.outbox.rows,
      kept.id = row.id)
    (enqueued : after.enqueued = state.enqueued) (between : after.between = state.between)
    (keyed : ∀ ingestion ∈ after.phase.ingestion, ∀ key ∈ ingestion.progress.key,
      ∃ eventId, key = hookKey eventId)
    (succeeded : ∀ key ∈ after.succeeded, key ∈ state.succeeded ∨
      (∃ eventId, key = hookKey eventId) ∧ state.database.Recorded key ∧
        state.between ≠ some key) : after.Accounted := by
  refine ⟨keyed, fun eventId => ?_, fun entry member => ?_, fun key member => ?_⟩
  · have rows : after.rowsFor (hookKey eventId) = state.rowsFor (hookKey eventId) := by
      unfold rowsFor
      rw [enqueued]
    rcases accounted.fate eventId with
      ⟨unknown, none, apart⟩ | ⟨known, none, inHand⟩ | ⟨outboxId, known, one, apart⟩
    · exact .unknown (fun known => unknown ((recorded eventId).mp known)) (rows.trans none)
        (between ▸ apart)
    · exact .halfway ((recorded eventId).mpr known) (rows.trans none) (between.trans inHand)
    · exact .enqueued outboxId ((recorded eventId).mpr known) (rows.trans one) (between ▸ apart)
  · rw [enqueued] at member
    obtain ⟨row, present, same⟩ := accounted.stored entry member
    obtain ⟨kept, keptMem, sameId⟩ := outbox row present
    exact ⟨kept, keptMem, sameId.trans same⟩
  · have before : (∃ eventId, key = hookKey eventId) ∧ state.database.Recorded key ∧
        state.between ≠ some key := (succeeded key member).elim (accounted.succeeded key) id
    obtain ⟨⟨eventId, rfl⟩, known, apart⟩ := before
    exact ⟨⟨eventId, rfl⟩, (recorded eventId).mpr known, between ▸ apart⟩

/-- A step after which no event is in hand, and before which none was halfway. -/
theorem settle (accounted : state.Accounted) (idle : state.between = none)
    (database : after.database = state.database) (enqueued : after.enqueued = state.enqueued)
    (ended : after.phase.ingestion = none)
    (succeeded : ∀ key ∈ after.succeeded, key ∈ state.succeeded ∨
      (∃ eventId, key = hookKey eventId) ∧ state.database.Recorded key ∧
        state.between ≠ some key) : after.Accounted := by
  refine accounted.keep (fun _ => by rw [database]) (fun row member => ?_) enqueued
    ((between_of_none ended).trans idle.symm) (fun ingestion inHand => ?_) succeeded
  · rw [database]
    exact ⟨row, member, rfl⟩
  · rw [ended] at inHand
    exact (Option.not_mem_none _ inHand).elim

/-- A failure of the event in hand, which was not halfway. -/
theorem fails {database : Database} {error : PyError} (accounted : state.Accounted)
    (idle : state.between = none) (unchanged : database = state.database) :
    ({ state with database := database }.fail error).Accounted := by
  subst unchanged
  obtain ⟨ended, database, enqueued, succeeded⟩ := fail_spec state error
  apply accounted.settle idle database enqueued ended
  intro key member
  rw [succeeded] at member
  exact .inl member

/-- An event comes in hand; its id, if it has one, is still to be recorded. -/
theorem begins (accounted : state.Accounted) (idle : state.between = none)
    {request : HookRequest} {file : Option SpoolFile}
    (keyed : ∀ key ∈ request.key, ∃ eventId, key = hookKey eventId)
    (database : after.database = state.database) (enqueued : after.enqueued = state.enqueued)
    (succeeded : after.succeeded = state.succeeded)
    (began : after.phase.ingestion = some (request.ingestion file)) : after.Accounted := by
  have waits : after.between = none := by
    rw [between_of_some began]
    unfold HookRequest.ingestion
    cases request.key with
    | none => rfl
    | some => rfl
  refine accounted.keep (fun _ => by rw [database]) (fun row member => ?_) enqueued
    (waits.trans idle.symm) (fun ingestion inHand key mentioned => ?_) fun key member => ?_
  · rw [database]
    exact ⟨row, member, rfl⟩
  · rw [began] at inHand
    obtain rfl := Option.mem_some_iff.mp inHand
    apply keyed key
    unfold HookRequest.ingestion at mentioned
    cases known : request.key with
    | none =>
      rw [known] at mentioned
      exact mentioned
    | some =>
      rw [known] at mentioned
      exact mentioned
  · rw [succeeded] at member
    exact .inl member

/-- A new event is recorded, and is halfway. -/
theorem records (accounted : state.Accounted) {ingestion : HookIngestion} {key : String}
    (idle : state.between = none) (named : ∃ eventId, key = hookKey eventId)
    (fresh : ¬ state.database.Recorded key)
    (recorded : ∀ other, after.database.Recorded other ↔
      state.database.Recorded other ∨ other = key)
    (outbox : after.database.outbox = state.database.outbox)
    (enqueued : after.enqueued = state.enqueued) (succeeded : after.succeeded = state.succeeded)
    (inHand : after.phase.ingestion = some ingestion)
    (recordedNow : ingestion.progress = .enqueue (some key)) : after.Accounted := by
  have halfway : after.between = some key := by
    rw [between_of_some inHand, recordedNow]
    rfl
  have rows : ∀ other, after.rowsFor other = state.rowsFor other := fun other => by
    unfold rowsFor
    rw [enqueued]
  refine ⟨fun other mem mentioned found => ?_, fun eventId => ?_, fun entry member => ?_,
    fun other member => ?_⟩
  · rw [inHand] at mem
    obtain rfl := Option.mem_some_iff.mp mem
    rw [recordedNow] at found
    obtain rfl := Option.mem_some_iff.mp found
    exact named
  · by_cases same : hookKey eventId = key
    · refine .halfway ((recorded _).mpr (.inr same)) ?_ (halfway.trans (congrArg some same.symm))
      rcases accounted.fate eventId with ⟨-, none, -⟩ | ⟨known, -, -⟩ | ⟨-, known, -, -⟩
      · exact (rows _).trans none
      · exact (fresh (same ▸ known)).elim
      · exact (fresh (same ▸ known)).elim
    · have apart : after.between ≠ some (hookKey eventId) := fun equal =>
        same (Option.some.inj (halfway.symm.trans equal)).symm
      rcases accounted.fate eventId with
        ⟨unknown, none, -⟩ | ⟨-, -, waiting⟩ | ⟨outboxId, known, one, -⟩
      · refine .unknown (fun known => ?_) ((rows _).trans none) apart
        exact ((recorded _).mp known).elim unknown same
      · rw [idle] at waiting
        cases waiting
      · exact .enqueued outboxId ((recorded _).mpr (.inl known)) ((rows _).trans one) apart
  · rw [enqueued] at member
    obtain ⟨row, present, equal⟩ := accounted.stored entry member
    exact ⟨row, outbox ▸ present, equal⟩
  · rw [succeeded] at member
    obtain ⟨origin, known, -⟩ := accounted.succeeded other member
    refine ⟨origin, (recorded other).mpr (.inl known), fun equal => fresh ?_⟩
    exact Option.some.inj (halfway.symm.trans equal) ▸ known

/-- The notification of the event in hand is enqueued. -/
theorem enqueues (accounted : state.Accounted) {key : Option String} {outboxId : Nat}
    (halfway : state.between = key)
    (named : ∀ recorded ∈ key, ∃ eventId, recorded = hookKey eventId)
    (events : after.database.events = state.database.events)
    (kept : ∀ row ∈ state.database.outbox.rows, row ∈ after.database.outbox.rows)
    (added : ∃ row ∈ after.database.outbox.rows, row.id = outboxId)
    (enqueued : after.enqueued = state.enqueued ++ [(key, outboxId)])
    (succeeded : after.succeeded = state.succeeded ++ key.toList) (idle : after.between = none)
    (keyed : ∀ ingestion ∈ after.phase.ingestion, ingestion.progress.key = none) :
    after.Accounted := by
  have same : ∀ eventId, after.database.Recorded eventId ↔ state.database.Recorded eventId :=
    fun eventId => by
      unfold Database.Recorded
      rw [events]
  have rows : ∀ other, after.rowsFor other =
      state.rowsFor other ++ if key = some other then [outboxId] else [] := fun other => by
    unfold rowsFor
    rw [enqueued, List.filter_append, List.map_append]
    congr 1
    by_cases equal : key = some other
    · rw [if_pos equal, equal]
      simp
    · rw [if_neg equal]
      simp [equal]
  have apart : ∀ other, after.between ≠ some other := fun other halfway => by
    rw [idle] at halfway
    cases halfway
  refine ⟨fun ingestion inHand other mentioned => ?_, fun eventId => ?_, fun entry member => ?_,
    fun other member => ?_⟩
  · rw [keyed ingestion inHand] at mentioned
    exact (Option.not_mem_none _ mentioned).elim
  · by_cases equal : key = some (hookKey eventId)
    · have one := rows (hookKey eventId)
      rw [if_pos equal] at one
      rcases accounted.fate eventId with
        ⟨-, -, other⟩ | ⟨known, none, -⟩ | ⟨-, -, -, other⟩
      · exact (other (halfway.trans equal)).elim
      · rw [none] at one
        exact .enqueued outboxId ((same _).mpr known) one (apart _)
      · exact (other (halfway.trans equal)).elim
    · have unchanged := rows (hookKey eventId)
      rw [if_neg equal, List.append_nil] at unchanged
      rcases accounted.fate eventId with
        ⟨unknown, none, -⟩ | ⟨-, -, waiting⟩ | ⟨older, known, one, -⟩
      · exact .unknown (fun known => unknown ((same _).mp known)) (unchanged.trans none) (apart _)
      · exact (equal (halfway.symm.trans waiting)).elim
      · exact .enqueued older ((same _).mpr known) (unchanged.trans one) (apart _)
  · rw [enqueued] at member
    rcases List.mem_append.mp member with old | new
    · obtain ⟨row, present, equal⟩ := accounted.stored entry old
      exact ⟨row, kept row present, equal⟩
    · rw [List.mem_singleton.mp new]
      exact added
  · rw [succeeded] at member
    rcases List.mem_append.mp member with old | new
    · obtain ⟨origin, known, -⟩ := accounted.succeeded other old
      exact ⟨origin, (same other).mpr known, apart other⟩
    · have mentioned := Option.mem_toList.mp new
      obtain ⟨eventId, rfl⟩ := named other mentioned
      refine ⟨⟨eventId, rfl⟩, (same _).mpr ?_, apart _⟩
      have waiting := halfway.trans mentioned
      rcases accounted.fate eventId with ⟨-, -, other⟩ | ⟨known, -, -⟩ | ⟨-, known, -, -⟩
      · exact (other waiting).elim
      · exact known
      · exact known

/-- The phase after an event was ingested: nothing is in hand but a file to unlink. -/
theorem finish_spec (state : HookState) (ingestion : HookIngestion) (key : Option String)
    {current : HookIngestion} (inHand : state.phase.ingestion = some current) :
    (state.finish ingestion key).between = none ∧
      ∀ next ∈ (state.finish ingestion key).phase.ingestion, next.progress.key = none := by
  have next : (state.finish ingestion key).phase.ingestion = ingestion.file.map fun file =>
      { ingestion with file := some file, progress := .unlink } := ingestion_goOn inHand _
  cases spooled : ingestion.file with
  | none =>
    rw [spooled] at next
    refine ⟨between_of_none next, fun other mem => ?_⟩
    rw [next] at mem
    exact (Option.not_mem_none _ mem).elim
  | some file =>
    rw [spooled] at next
    refine ⟨between_of_some next, fun other mem => ?_⟩
    rw [next] at mem
    obtain rfl := Option.mem_some_iff.mp mem
    rfl

variable {delay : Instant}

/-- The next operation of the event in hand. -/
theorem operates {ingestion : HookIngestion} {now : Instant} {faults : List (Option PyError)}
    (accounted : state.Accounted) (inHand : state.phase.ingestion = some ingestion)
    (goesOn : state.between ≠ none → ∀ fault ∈ faults, fault = none) :
    (state.operate delay ingestion now faults).Accounted := by
  have keyed := accounted.keyed ingestion inHand
  have between := between_of_some inHand
  unfold operate
  split
  next key recording =>
    rw [recording] at keyed between
    have named := keyed key rfl
    split
    next data ran =>
      obtain ⟨fresh, recorded, outbox⟩ := recordEventOnce_true ran
      exact accounted.records between named fresh recorded outbox rfl rfl
        (ingestion_goOn inHand _) rfl
    next data ran =>
      obtain ⟨known, unchanged⟩ := recordEventOnce_false ran
      obtain ⟨idle, unkeyed⟩ := finish_spec { state with database := data.data } ingestion
        (some key) inHand
      refine accounted.keep (fun _ => ?_) (fun row member => ⟨row, ?_, rfl⟩) rfl
        (idle.trans between.symm) (fun next mem other mentioned => ?_) fun other member => ?_
      · exact iff_of_eq (congrArg (Database.Recorded · _) unchanged)
      · exact unchanged.symm ▸ member
      · rw [unkeyed next mem] at mentioned
        exact (Option.not_mem_none _ mentioned).elim
      · rcases List.mem_append.mp member with old | new
        · exact .inl old
        · obtain rfl := List.mem_singleton.mp new
          refine .inr ⟨named, known, fun halfway => ?_⟩
          rw [between] at halfway
          cases halfway
    next error data ran => exact accounted.fails between (recordEventOnce_error ran)
  next key enqueuing =>
    rw [enqueuing] at keyed between
    split
    next outboxId data ran =>
      obtain ⟨events, kept, added⟩ := enqueueOutbox_ok ran
      obtain ⟨idle, unkeyed⟩ := finish_spec
        { state with database := data.data, enqueued := state.enqueued ++ [(key, outboxId)] }
        ingestion key inHand
      exact accounted.enqueues between keyed events kept added rfl rfl idle unkeyed
    next error data ran =>
      cases key with
      | none => exact accounted.fails between (enqueueOutbox_error ran)
      | some key =>
        have faultless := goesOn (by rw [between]; exact Option.some_ne_none key)
        obtain ⟨outboxId, other, succeeds⟩ :=
          enqueueOutbox_faultless now state.database ingestion.name delay faultless
        rw [succeeds] at ran
        cases ran
  next unlinking =>
    rw [unlinking] at between
    split
    · exact accounted.fails between rfl
    · exact accounted.settle between rfl rfl (ingestion_goOn inHand _) fun _ member => .inl member

end Accounted

/-- The key of a payload is that of an event id. -/
theorem key_named {payload : JsonObject} :
    ∀ key ∈ (eventIdOf payload).map hookKey, ∃ eventId, key = hookKey eventId := by
  intro key mentioned
  obtain ⟨eventId, -, rfl⟩ := Option.map_eq_some_iff.mp mentioned
  exact ⟨eventId, rfl⟩

/-- The key of a request comes from an event id. -/
theorem request_keyed {body : HookBody} {request : HookRequest}
    (read : body.request = .ok request) :
    ∀ key ∈ request.key, ∃ eventId, key = hookKey eventId := by
  unfold HookBody.request at read
  split at read
  next => cases read
  next => cases read
  next payload =>
    split at read
    next name _ =>
      split at read
      next =>
        cases read
        exact key_named
      next => cases read
    next => cases read
  next => cases read
  next =>
    split at read
    all_goals cases read

/-- The key of a file's request is that of an event id. -/
theorem spooledRequest_keyed {payload : JsonObject} {request : HookRequest}
    (read : spooledRequest payload = .ok (some request)) :
    ∀ key ∈ request.key, ∃ eventId, key = hookKey eventId := by
  unfold spooledRequest at read
  split at read
  next name _ =>
    by_cases supported : name ∈ hookEvents
    · rw [if_pos supported] at read
      cases read
      exact key_named
    · rw [if_neg supported] at read
      cases read
  next => cases read
  next => cases read
  next => cases read

/-- The key of a spooled event comes from an event id. -/
theorem file_keyed {file : SpoolFile} {request : HookRequest}
    (read : file.request = .ok (some request)) :
    ∀ key ∈ request.key, ∃ eventId, key = hookKey eventId := by
  unfold SpoolFile.request at read
  split at read
  next => cases read
  next =>
    split at read
    next => cases read
    next => cases read
    next payload _ => exact spooledRequest_keyed read
    next => cases read
    next fields _ =>
      unfold surrogateRequest at read
      split at read
      next => cases read
      next => exact spooledRequest_keyed read

/-- What other code records is no hook event. -/
theorem not_hookKey_of_other {operation : StoreOperation} (other : operation.recordsHook = false) :
    ∀ eventId, operation.MayRecord eventId → ¬ ∃ hookId, eventId = hookKey hookId := by
  rintro _ ⟨receivedAt, rfl⟩ ⟨hookId, rfl⟩
  have begins : "hook:".toList.isPrefixOf (hookKey hookId).toList := by
    unfold hookKey
    rw [String.toList_append]
    exact List.isPrefixOf_iff_prefix.mpr (List.prefix_append _ _)
  exact Bool.false_ne_true (other.symm.trans begins)

variable {delay : Instant} {event : HookEvent}

/-- An uninterrupted event leaves every recorded event with its row, or with its row
about to come. -/
theorem Accounted.step (accounted : state.Accounted) (uninterrupted : state.Uninterrupted event)
    (stepped : state.step delay event = some after) : after.Accounted := by
  have beside : ∀ {changed : HookState}, changed.database = state.database →
      changed.enqueued = state.enqueued → changed.phase = state.phase →
      changed.succeeded = state.succeeded → changed.Accounted := by
    intro changed database enqueued phase succeeded
    refine accounted.keep (fun _ => by rw [database]) (fun row member => ⟨row, ?_, rfl⟩) enqueued
      ?_ ?_ fun key member => .inl ?_
    · rw [database]
      exact member
    · unfold between
      rw [phase]
    · rw [phase]
      exact accounted.keyed
    · rw [succeeded] at member
      exact member
  cases event with
  | send payload =>
    obtain rfl := Option.some.inj stepped
    exact beside rfl rfl rfl rfl
  | answered payload =>
    simp only [HookState.step] at stepped
    split at stepped
    next =>
      obtain rfl := Option.some.inj stepped
      exact beside rfl rfl rfl rfl
    next => cases stepped
  | spool payload name size =>
    simp only [HookState.step] at stepped
    split at stepped
    next =>
      obtain rfl := Option.some.inj stepped
      exact beside rfl rfl rfl rfl
    next => cases stepped
  | lose payload =>
    simp only [HookState.step] at stepped
    split at stepped
    next =>
      obtain rfl := Option.some.inj stepped
      exact beside rfl rfl rfl rfl
    next => cases stepped
  | tear name size content =>
    simp only [HookState.step] at stepped
    split at stepped
    next =>
      obtain rfl := Option.some.inj stepped
      exact beside rfl rfl rfl rfl
    next => cases stepped
  | request body =>
    simp only [HookState.step] at stepped
    split at stepped
    next serving =>
      have idle : state.between = none := between_of_none (by rw [serving]; rfl)
      split at stepped
      next request read =>
        obtain rfl := Option.some.inj stepped
        exact accounted.begins idle (request_keyed read) rfl rfl rfl rfl
      next =>
        obtain rfl := Option.some.inj stepped
        exact accounted
    next => cases stepped
  | proceed now faults =>
    obtain ⟨ingestion, inHand, rfl⟩ := Option.map_eq_some_iff.mp stepped
    exact accounted.operates inHand uninterrupted
  | drainNext fault =>
    simp only [HookState.step] at stepped
    split at stepped
    next draining =>
      have idle : state.between = none := between_of_none (by rw [draining]; rfl)
      obtain rfl := Option.some.inj stepped
      exact accounted.settle idle rfl rfl rfl fun _ member => .inl member
    next file rest draining =>
      have idle : state.between = none := between_of_none (by rw [draining]; rfl)
      have goesOn : HookState.Accounted { state with phase := .draining none rest } :=
        accounted.settle idle rfl rfl rfl fun _ member => .inl member
      split at stepped
      next =>
        obtain rfl := Option.some.inj stepped
        exact goesOn.fails rfl rfl
      next =>
        obtain rfl := Option.some.inj stepped
        exact goesOn.fails rfl rfl
      next =>
        obtain rfl := Option.some.inj stepped
        exact goesOn
      next request read =>
        obtain rfl := Option.some.inj stepped
        exact accounted.begins idle (file_keyed read) rfl rfl rfl rfl
    next => cases stepped
  | start =>
    simp only [HookState.step] at stepped
    split at stepped
    next stopped =>
      have idle : state.between = none := between_of_none (by rw [stopped]; rfl)
      obtain rfl := Option.some.inj stepped
      exact accounted.settle idle rfl rfl rfl fun _ member => .inl member
    next => cases stepped
  | stop =>
    obtain rfl := Option.some.inj stepped
    exact accounted.settle uninterrupted rfl rfl rfl fun _ member => .inl member
  | other operation faults =>
    simp only [HookState.step] at stepped
    split at stepped
    next =>
      obtain rfl := Option.some.inj stepped
      have kept := operation.keeps (not_hookKey_of_other uninterrupted) ⟨state.database, faults⟩
      exact accounted.keep (fun eventId => ⟨kept.unrecorded _ ⟨eventId, rfl⟩, kept.recorded _⟩)
        kept.outbox rfl rfl accounted.keyed fun _ member => .inl member
    next => cases stepped

end HookState

/-- Where no ingestion is interrupted between its transactions, a recorded event has exactly
one outbox row, but for the event whose row is enqueued next; and so has every event that a
request or a drain ingested, however often it was tried before. -/
theorem recorded_hook_enqueued {delay : Instant} {state : HookState}
    (reachable : (hookSystem delay).ReachableVia HookState.Uninterrupted state) :
    (∀ eventId, state.database.Recorded (hookKey eventId) →
      state.between = some (hookKey eventId) ∨ ∃ outboxId,
        state.rowsFor (hookKey eventId) = [outboxId] ∧
          ∃ row ∈ state.database.outbox.rows, row.id = outboxId) ∧
    ∀ key ∈ state.succeeded, ∃ outboxId, state.rowsFor key = [outboxId] ∧
      ∃ row ∈ state.database.outbox.rows, row.id = outboxId := by
  have accounted : state.Accounted := by
    refine reachable.invariant HookState.Accounted ?_ fun before event after accounted goesOn
      stepped => accounted.step goesOn stepped
    rintro _ ⟨database, spool, rfl, unknown⟩
    refine ⟨fun _ absent => (Option.not_mem_none _ absent).elim, fun eventId => ?_,
      fun _ absent => absurd absent List.not_mem_nil, fun _ absent =>
        absurd absent List.not_mem_nil⟩
    exact .unknown (unknown eventId) rfl fun impossible => by cases impossible
  have stored : ∀ key outboxId, state.rowsFor key = [outboxId] →
      ∃ row ∈ state.database.outbox.rows, row.id = outboxId := fun key outboxId one => by
    have member : outboxId ∈ state.rowsFor key := one ▸ List.mem_singleton_self _
    obtain ⟨entry, kept, rfl⟩ := List.mem_map.mp member
    exact accounted.stored entry (List.mem_of_mem_filter kept)
  refine ⟨fun eventId known => ?_, fun key member => ?_⟩
  · rcases accounted.fate eventId with ⟨unknown, -, -⟩ | ⟨-, -, halfway⟩ | ⟨outboxId, -, one, -⟩
    · exact (unknown known).elim
    · exact .inl halfway
    · exact .inr ⟨outboxId, one, stored _ _ one⟩
  · obtain ⟨⟨eventId, rfl⟩, known, apart⟩ := accounted.succeeded key member
    rcases accounted.fate eventId with ⟨unknown, -, -⟩ | ⟨-, -, halfway⟩ | ⟨outboxId, -, one, -⟩
    · exact (unknown known).elim
    · exact (apart halfway).elim
    · exact ⟨outboxId, one, stored _ _ one⟩

section Scenarios

/-- A hook event with an id, as the hook process sends it. -/
def stopHook : JsonObject := [("hook_event_name", .str "Stop"), ("event_id", .str "e-1")]

/-- Follow events from an empty database and spool. -/
theorem hook_of_scenario {guard : HookState → HookEvent → Prop} {property : HookState → Prop}
    [DecidablePred property] (allowed : HookState → HookEvent → Bool) (events : List HookEvent)
    (implies : ∀ state event, allowed state event → guard state event)
    (checked : (System.follow (HookState.step 0) allowed ⟨.empty, [], [], .stopped, [], []⟩
      events).any fun state => property state) :
    ∃ state, (hookSystem 0).ReachableVia guard state ∧ property state := by
  obtain ⟨state, followed, holds⟩ := (Option.any_eq_true _ _).mp checked
  refine ⟨state, ⟨_, ⟨.empty, [], rfl, ?_⟩, System.reachesVia_of_follow
    (fun _ _ _ stepped => stepped) implies followed⟩, of_decide_eq_true holds⟩
  rintro eventId ⟨row, absent, -⟩
  cases absent

/-- The daemon is started, and begins to handle a hook event. -/
def hookArrives : List HookEvent :=
  [.start, .drainNext none, .send stopHook, .request (.json (.obj stopHook)), .proceed 0 []]

/-- The outbox cannot be written after the event was recorded. The hook process spools the event,
and the next start of the daemon takes it for a duplicate and discards it. -/
theorem interrupted_hook_lost : ∃ state, (hookSystem 0).Reachable state ∧
    state.database.Recorded (hookKey "e-1") ∧ hookKey "e-1" ∈ state.succeeded ∧
    state.rowsFor (hookKey "e-1") = [] ∧ state.database.outbox.rows = [] ∧ state.spool = [] := by
  exact hook_of_scenario (fun _ _ => true)
    (hookArrives ++
      [.proceed 0 [none, some ⟨.other "OperationalError", "database is locked"⟩],
        .spool stopHook "hook-1.json" 50, .stop, .start, .drainNext none, .proceed 0 [],
        .proceed 0 []])
    (fun _ _ _ => trivial) (by decide)

/-- The daemon is not stopped, and the store fails nowhere. -/
def faultless : HookEvent → Bool
  | .stop => false
  | .proceed _ faults => faults.isEmpty
  | .other operation _ => !operation.recordsHook
  | _ => true

/-- The check of a scenario implies the condition on its events. -/
theorem uninterrupted_of_faultless {state : HookState} {event : HookEvent}
    (goesOn : faultless event) : state.Uninterrupted event := by
  cases event with
  | stop => cases goesOn
  | proceed now faults =>
    intro _ fault member
    rw [List.isEmpty_iff.mp goesOn] at member
    cases member
  | other operation faults => exact (Bool.not_eq_true' _).mp goesOn
  | _ => trivial

/-- An event that is ingested without a fault has its row. -/
theorem ingested_hook_enqueued : ∃ state : HookState,
    (hookSystem 0).ReachableVia HookState.Uninterrupted state ∧
      hookKey "e-1" ∈ state.succeeded ∧ ∃ outboxId, state.rowsFor (hookKey "e-1") = [outboxId] := by
  have reached : ∃ state, (hookSystem 0).ReachableVia HookState.Uninterrupted state ∧
      hookKey "e-1" ∈ state.succeeded :=
    hook_of_scenario (fun _ event => faultless event) (hookArrives ++ [.proceed 0 []])
      (fun _ _ => uninterrupted_of_faultless) (by decide)
  obtain ⟨state, reachable, member⟩ := reached
  obtain ⟨outboxId, one, -⟩ := (recorded_hook_enqueued reachable).2 _ member
  exact ⟨state, reachable, member, outboxId, one⟩

end Scenarios

end LarkBot
