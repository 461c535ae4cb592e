import Mathlib.Data.List.Forall2
import LarkBot.Server.Daemon.Hooks

/-! # Draining the spool

At its start the daemon takes the hook events that were spooled, file by file. A file that cannot be
read, or holds no event, is skipped. What is raised for a name that cannot be looked up, and by
`json.loads` for a number that is too long or values nested too deep, is not caught: it ends the
drain, and the start of the daemon with it. What is raised for an event id with an unpaired
surrogate is caught, and the event stays in its file. Where no file is such, every new event is
enqueued once, and the files of events are the ones that are removed (`LarkBot.Spool.drained_iff`).
-/

namespace LarkBot

open Foundation

/-- A file of the spool, what else looking at it raises, and the times at which its event is
recorded and enqueued. -/
structure SpoolEntry where
  file : SpoolFile
  fault : Option PyError
  receivedAt : Instant
  createdAt : Instant

/-- The event of a file, up to the store. -/
def SpoolEntry.request (entry : SpoolEntry) : Except PyError (Option HookRequest) :=
  match entry.fault with
  | some error => .error error
  | none => entry.file.request

/-- The event of a file that holds one which can be recorded. -/
def SpoolEntry.event (entry : SpoolEntry) : Option HookRequest :=
  match entry.request with
  | .ok request => request
  | .error _ => none

/-- The database, and the files of the spool directory. -/
structure Spool where
  database : Database
  entries : List SpoolEntry
  names : (entries.map fun entry => entry.file.name).Nodup

namespace Spool

def write (spool : Spool) (database : Database) : Spool := { spool with database := database }

def unlink (spool : Spool) (entry : SpoolEntry) : Spool where
  database := spool.database
  entries := spool.entries.filter fun other => entry.file.name != other.file.name
  names := spool.names.sublist (List.filter_sublist.map _)

/-- The notification of an event is enqueued, and its file is removed. -/
def enqueue (delay : Instant) (spool : Spool) (entry : SpoolEntry) (name : String) :
    Except PyError Unit × Spool :=
  match (StoreProgram.enqueueOutbox (HookState.notificationOf delay name entry.createdAt)).outcome
    ⟨spool.database, []⟩ with
  | (.ok _, after) => (.ok (), (spool.write after.data).unlink entry)
  | (.error error, after) => (.error error, spool.write after.data)

/-- The event is recorded, and enqueued if that is new. -/
def record (delay : Instant) (spool : Spool) (entry : SpoolEntry) (key name : String) :
    Except PyError Unit × Spool :=
  match (StoreProgram.recordEventOnce key entry.receivedAt).outcome ⟨spool.database, []⟩ with
  | (.ok true, after) => (spool.write after.data).enqueue delay entry name
  | (.ok false, after) => (.ok (), (spool.write after.data).unlink entry)
  | (.error error, after) => (.error error, spool.write after.data)

/-- The body of the loop of `_drain_spool`, without its `except`. -/
def take (delay : Instant) (spool : Spool) (entry : SpoolEntry) : Except PyError Unit × Spool :=
  match entry.request with
  | .error error => (.error error, spool)
  | .ok none => (.ok (), spool)
  | .ok (some request) =>
      match request.key with
      | none => spool.enqueue delay entry request.name
      | some key => spool.record delay entry key request.name

/-- The loop of `_drain_spool`. -/
def drain (delay : Instant) : Spool → List SpoolEntry → Except PyError Unit × Spool
  | spool, [] => (.ok (), spool)
  | spool, entry :: entries =>
      match spool.take delay entry with
      | (.ok _, after) => drain delay after entries
      | (.error error, after) =>
          if error.errorType.name ∈ spoolErrors then drain delay after entries else
            (.error error, after)

/-- `_drain_spool`. -/
def drainSpool (delay : Instant) (spool : Spool) : Except PyError Unit × Spool :=
  spool.drain delay (spool.entries.insertionSort fun first second =>
    first.file.name ≤ second.file.name)

end Spool

section Requests

/-- The events of files, in order. -/
def eventsOf (entries : List SpoolEntry) : List HookRequest := entries.filterMap SpoolEntry.event

/-- The requests that are enqueued: one for each id that was not recorded before, and every one
without an id. -/
structure EnqueuedOnce (recorded : String → Prop) (requests enqueued : List HookRequest) :
    Prop where
  sublist : enqueued.Sublist requests
  distinct : (enqueued.filterMap HookRequest.key).Nodup
  new : ∀ key, key ∈ enqueued.filterMap HookRequest.key ↔
    key ∈ requests.filterMap HookRequest.key ∧ ¬ recorded key
  unnamed : enqueued.filter (·.key.isNone) = requests.filter (·.key.isNone)

variable {recorded : String → Prop}

/-- No file makes no row. -/
theorem EnqueuedOnce.nil : EnqueuedOnce recorded [] [] where
  sublist := List.Sublist.refl _
  distinct := List.nodup_nil
  new _ := iff_of_false List.not_mem_nil fun absent => List.not_mem_nil absent.1
  unnamed := rfl

/-- Further requests are enqueued, by what is recorded after the first ones. -/
theorem EnqueuedOnce.append {first second firstEnqueued secondEnqueued : List HookRequest}
    (before : EnqueuedOnce recorded first firstEnqueued)
    (after : EnqueuedOnce (fun key => recorded key ∨ key ∈ first.filterMap HookRequest.key) second
      secondEnqueued) :
    EnqueuedOnce recorded (first ++ second) (firstEnqueued ++ secondEnqueued) where
  sublist := before.sublist.append after.sublist
  distinct := by
    rw [List.filterMap_append, List.nodup_append]
    refine ⟨before.distinct, after.distinct, ?_⟩
    rintro key early _ late rfl
    exact ((after.new key).mp late).2 (.inr ((before.new key).mp early).1)
  new key := by
    rw [List.filterMap_append, List.filterMap_append, List.mem_append, List.mem_append,
      before.new key,
      after.new key]
    constructor
    · rintro (⟨early, unknown⟩ | ⟨late, unknown⟩)
      · exact ⟨.inl early, unknown⟩
      · exact ⟨.inr late, fun known => unknown (.inl known)⟩
    · rintro ⟨early | late, unknown⟩
      · exact .inl ⟨early, unknown⟩
      · by_cases also : key ∈ first.filterMap HookRequest.key
        · exact .inl ⟨also, unknown⟩
        · exact .inr ⟨late, fun known => known.elim unknown also⟩
  unnamed := by rw [List.filter_append, List.filter_append, before.unnamed, after.unnamed]

/-- A row is the notification of a request. -/
structure Notifies (row : OutboxRow) (request : HookRequest) : Prop where
  notificationType : row.notificationType = "hook:" ++ request.name
  payloadSummary : row.payloadSummary = safeSummary ("Codex hook " ++ request.name)
  unsent : row.sentAt = none

end Requests

namespace Spool

section Loop

variable {delay : Instant} {before middle after : Spool} {entry : SpoolEntry}
  {first second : List SpoolEntry}

/-- The file of an event has the name of another file. -/
def Removes (entry other : SpoolEntry) : Prop := entry.event ≠ none ∧ entry.file.name =
    other.file.name

/-- The events of these files were taken. -/
structure Taken (before : Spool) (entries : List SpoolEntry) (after : Spool) : Prop where
  recorded : ∀ key, after.database.Recorded key ↔
    before.database.Recorded key ∨ key ∈ (eventsOf entries).filterMap HookRequest.key
  notified : ∃ requests rows, EnqueuedOnce before.database.Recorded (eventsOf entries) requests ∧
    after.database.outbox.rows = before.database.outbox.rows ++ rows ∧ List.Forall₂ Notifies rows
      requests
  left : ∀ other, other ∈ after.entries ↔
    other ∈ before.entries ∧ ∀ entry ∈ entries, ¬ Removes entry other

/-- A drain without files leaves the spool. -/
theorem Taken.nil (spool : Spool) : Taken spool [] spool where
  recorded _ := (or_iff_left List.not_mem_nil).symm
  notified := ⟨[], [], .nil, (List.append_nil _).symm, .nil⟩
  left _ := (and_iff_left fun _ absent => (List.not_mem_nil absent).elim).symm

/-- A drain takes its files one after the other. -/
theorem Taken.append (start : Taken before first middle) (rest : Taken middle second after) :
    Taken before (first ++ second) after where
  recorded key := by
    rw [rest.recorded, start.recorded, eventsOf, eventsOf, eventsOf, List.filterMap_append,
      List.filterMap_append, List.mem_append, or_assoc]
  notified := by
    obtain ⟨early, earlyRows, earlyOnce, earlyAdded, earlyNotified⟩ := start.notified
    obtain ⟨late, lateRows, lateOnce, lateAdded, lateNotified⟩ := rest.notified
    have known : middle.database.Recorded = fun key => before.database.Recorded key ∨
        key ∈ (eventsOf first).filterMap HookRequest.key :=
      funext fun key => propext (start.recorded key)
    rw [known] at lateOnce
    refine ⟨early ++ late, earlyRows ++ lateRows, ?_, ?_, List.rel_append earlyNotified
      lateNotified⟩
    · have events : eventsOf (first ++ second) = eventsOf first ++ eventsOf second :=
        List.filterMap_append
      rw [events]
      exact earlyOnce.append lateOnce
    · rw [lateAdded, earlyAdded, List.append_assoc]
  left other := by
    rw [rest.left, start.left, and_assoc]
    apply and_congr_right
    intro _
    constructor
    · rintro ⟨early, late⟩ entry member
      rcases List.mem_append.mp member with inFirst | inSecond
      · exact early entry inFirst
      · exact late entry inSecond
    · intro all
      exact ⟨fun entry member => all entry (List.mem_append_left _ member),
        fun entry member => all entry (List.mem_append_right _ member)⟩

/-- A file without an event leaves everything as it is. -/
theorem Taken.skip (eventless : entry.event = none) : Taken before [entry] before := by
  have events : eventsOf [entry] = [] := List.filterMap_cons_none eventless
  refine ⟨fun key => ?_, ⟨[], [], ?_, (List.append_nil _).symm, .nil⟩, fun other => ?_⟩
  · rw [events]
    exact (or_iff_left List.not_mem_nil).symm
  · rw [events]
    exact .nil
  · refine (and_iff_left fun named member removes => ?_).symm
    rw [List.mem_singleton.mp member] at removes
    exact removes.1 eventless

/-- Unlinking removes the file. -/
theorem mem_unlink {spool : Spool} {other : SpoolEntry} (event : entry.event ≠ none) :
    other ∈ (spool.unlink entry).entries ↔
      other ∈ spool.entries ∧ ∀ named ∈ [entry], ¬ Removes named other := by
  unfold unlink
  rw [List.mem_filter, bne_iff_ne]
  apply and_congr_right
  intro _
  constructor
  · rintro different named member ⟨_, same⟩
    rw [List.mem_singleton.mp member] at same
    exact different same
  · exact fun none same => none entry List.mem_cons_self ⟨event, same⟩

/-- Enqueuing a file adds its row and unlinks it. -/
theorem enqueue_ok (delay : Instant) (spool : Spool) (entry : SpoolEntry) (name : String) :
    ∃ row database, spool.enqueue delay entry name = (.ok (), (spool.write database).unlink entry) ∧
      database.events = spool.database.events ∧
      database.outbox.rows = spool.database.outbox.rows ++ [row] ∧
      ∀ key, Notifies row ⟨key, name⟩ := by
  obtain ⟨outboxId, setting, ran⟩ := enqueueOutbox_faultless entry.createdAt spool.database name
    delay
    fun _ (absent : _ ∈ ([] : List (Option PyError))) => (List.not_mem_nil absent).elim
  obtain ⟨opened, same, inserted⟩ := StoreProgram.connection_ok ran
  have effect := Program.statement_ok inserted
  rw [same] at effect
  obtain ⟨events, rows⟩ := Database.insertOutbox_ok effect
  refine ⟨_, setting.data, ?_, events, rows, ?_⟩
  · unfold enqueue
    rw [ran]
  · exact fun key => ⟨rfl, rfl, rfl⟩

/-- Without a fault `record_event_once` inserts the event unless it is there. -/
theorem recordEventOnce_eq (key : String) (now : Instant) (database : Database) :
    (StoreProgram.recordEventOnce key now).outcome ⟨database, []⟩ =
      (.ok ((database.insertEventOrIgnore ⟨key, .instant now⟩).1 == 1),
        ⟨(database.insertEventOrIgnore ⟨key, .instant now⟩).2, []⟩) := rfl

/-- A file with an event has its request. -/
theorem request_of_event {request : HookRequest} (event : entry.event = some request) :
    entry.request = .ok (some request) := by
  unfold SpoolEntry.event at event
  split at event
  next found same =>
    rw [same, event]
  next => cases event

/-- Tables with the same events have the same ones recorded. -/
theorem recorded_of_events {first second : Database} (same : first.events = second.events)
    (key : String) :
    first.Recorded key ↔ second.Recorded key := by
  unfold Database.Recorded
  rw [same]

/-- A new request is enqueued. -/
theorem taken_new {request : HookRequest} {spool after : Spool} {row : OutboxRow}
    (event : entry.event = some request) (new : ∀ key ∈ request.key, ¬ spool.database.Recorded key)
    (recorded : ∀ key, after.database.Recorded key ↔ spool.database.Recorded key ∨
      key ∈ request.key)
    (rows : after.database.outbox.rows = spool.database.outbox.rows ++ [row])
    (notifies : Notifies row request)
    (left : after.entries = (spool.unlink entry).entries) : Taken spool [entry] after := by
  have events : eventsOf [entry] = [request] := List.filterMap_cons_some event
  have keys : ∀ key, key ∈ [request].filterMap HookRequest.key ↔ key ∈ request.key := by
    intro key
    rw [List.mem_filterMap, Option.mem_def]
    constructor
    · rintro ⟨other, member, same⟩
      rwa [← List.mem_singleton.mp member]
    · exact fun same => ⟨request, List.mem_cons_self, same⟩
  have some : entry.event ≠ none := by
    rw [event]
    exact Option.some_ne_none _
  refine ⟨fun key => ?_, ⟨[request], [row], ?_, rows, .cons notifies .nil⟩, fun other => ?_⟩
  · rw [events, keys, recorded]
  · rw [events]
    refine ⟨List.Sublist.refl _, ?_, fun key => ?_, rfl⟩
    · cases found : request.key with
      | none =>
          rw [List.filterMap_cons_none found]
          exact List.nodup_nil
      | some key =>
          rw [List.filterMap_cons_some found]
          exact List.nodup_singleton key
    · rw [keys]
      exact (and_iff_left_of_imp (new key)).symm
  · rw [left]
    exact mem_unlink some

/-- The event of a file is enqueued once, and its file removed. -/
theorem take_event {request : HookRequest} (delay : Instant) (spool : Spool)
    (event : entry.event = some request) :
    ∃ after, spool.take delay entry = (.ok (), after) ∧ Taken spool [entry] after := by
  unfold take
  rw [request_of_event event]
  dsimp only
  cases named : request.key with
  | none =>
      obtain ⟨row, database, ran, same, rows, notifies⟩ := enqueue_ok delay spool entry request.name
      refine ⟨_, ran, taken_new event ?_ (fun key => ?_) rows (notifies request.key) rfl⟩
      · rw [named]
        exact fun key absent => (Option.not_mem_none key absent).elim
      · rw [named]
        exact (recorded_of_events same key).trans (or_iff_left (Option.not_mem_none key)).symm
  | some key =>
      dsimp only
      obtain ⟨isNew, setting, ran⟩ : ∃ isNew setting, (StoreProgram.recordEventOnce key
          entry.receivedAt).outcome ⟨spool.database, []⟩ = (.ok isNew, setting) :=
        ⟨_, _, recordEventOnce_eq key entry.receivedAt spool.database⟩
      unfold record
      rw [ran]
      cases isNew with
      | false =>
          obtain ⟨known, same⟩ := recordEventOnce_false ran
          refine ⟨_, rfl, ?_⟩
          have events : eventsOf [entry] = [request] := List.filterMap_cons_some event
          have keys : [request].filterMap HookRequest.key = [key] := List.filterMap_cons_some named
          have unchanged : ((spool.write setting.data).unlink entry).database = spool.database :=
            same
          refine ⟨fun other => ?_, ⟨[], [], ?_, ?_, .nil⟩, fun other => mem_unlink ?_⟩
          · rw [unchanged, events, keys, List.mem_singleton]
            exact (or_iff_left_of_imp fun named => named ▸ known).symm
          · rw [events]
            refine ⟨List.nil_sublist _, List.nodup_nil, fun other => ?_, ?_⟩
            · rw [keys, List.mem_singleton]
              refine iff_of_false List.not_mem_nil fun ⟨named, unknown⟩ => unknown (named ▸ known)
            · have keyed : ¬ request.key.isNone := by
                rw [named]
                exact Bool.false_ne_true
              exact (List.filter_cons_of_neg (p := fun other : HookRequest => other.key.isNone)
                keyed).symm
          · rw [unchanged, List.append_nil]
          · rw [event]
            exact Option.some_ne_none _
      | true =>
          obtain ⟨unknown, recorded, outbox⟩ := recordEventOnce_true ran
          obtain ⟨row, database, enqueued, same, rows, notifies⟩ :=
            enqueue_ok delay (spool.write setting.data) entry request.name
          refine ⟨_, enqueued, taken_new event ?_ (fun other => ?_) ?_
            (notifies request.key) rfl⟩
          · rw [named]
            rintro _ ⟨⟩
            exact unknown
          · rw [named, Option.mem_some_iff, eq_comm]
            exact (recorded_of_events same other).trans (recorded other)
          · rw [← outbox]
            exact rows

/-- What looking at a file raises is caught. -/
def Caught (entry : SpoolEntry) : Prop :=
  ∀ error, entry.request = .error error → error.errorType.name ∈ spoolErrors

/-- One file is taken, or raises what looking at it raises. -/
theorem take_cases (delay : Instant) (spool : Spool) (entry : SpoolEntry) :
    (∃ after, spool.take delay entry = (.ok (), after) ∧ Taken spool [entry] after ∧ Caught entry) ∨
      ∃ error, entry.request = .error error ∧ spool.take delay entry = (.error error, spool) ∧
        Taken spool [entry] spool := by
  cases looked : entry.request with
  | error error =>
      have eventless : entry.event = none := by
        unfold SpoolEntry.event
        rw [looked]
      refine .inr ⟨error, rfl, ?_, Taken.skip eventless⟩
      unfold take
      rw [looked]
  | ok found =>
      have quiet : Caught entry := by
        intro error raised
        rw [looked] at raised
        cases raised
      have event : entry.event = found := by
        unfold SpoolEntry.event
        rw [looked]
      cases found with
      | none =>
          refine .inl ⟨spool, ?_, Taken.skip event, quiet⟩
          unfold take
          rw [looked]
      | some request =>
          obtain ⟨after, ran, taken⟩ := take_event delay spool event
          exact .inl ⟨after, ran, taken, quiet⟩

/-- The drain goes through all files when nothing is raised that it does not catch. -/
theorem drain_of_caught (delay : Instant) {entries : List SpoolEntry} (spool : Spool)
    (caught : ∀ entry ∈ entries, Caught entry) :
    ∃ after, spool.drain delay entries = (.ok (), after) ∧ Taken spool entries after := by
  induction entries generalizing spool with
  | nil => exact ⟨spool, rfl, Taken.nil spool⟩
  | cons entry entries ih =>
      have rest := fun other member => caught other (List.mem_cons_of_mem _ member)
      unfold drain
      rcases take_cases delay spool entry with ⟨middle, ran, taken, _⟩ | ⟨error, raised, ran, taken⟩
      · obtain ⟨after, ended, later⟩ := ih middle rest
        rw [ran]
        exact ⟨after, ended, taken.append later⟩
      · obtain ⟨after, ended, later⟩ := ih spool rest
        rw [ran]
        dsimp only
        rw [if_pos (caught entry List.mem_cons_self error raised)]
        exact ⟨after, ended, taken.append later⟩

/-- A drain that ends well caught all that was raised. -/
theorem caught_of_drain {entries : List SpoolEntry} {spool : Spool}
    (ended : (spool.drain delay entries).1 = .ok ()) : ∀ entry ∈ entries, Caught entry := by
  induction entries generalizing spool with
  | nil => exact fun _ absent => (List.not_mem_nil absent).elim
  | cons entry entries ih =>
      unfold drain at ended
      intro other member
      rcases take_cases delay spool entry with ⟨middle, ran, _, quiet⟩ | ⟨error, raised, ran, _⟩
      · rw [ran] at ended
        rcases List.mem_cons.mp member with rfl | later
        · exact quiet
        · exact ih ended other later
      · rw [ran] at ended
        dsimp only at ended
        split at ended
        next inside =>
          rcases List.mem_cons.mp member with rfl | later
          · intro another same
            rw [raised] at same
            cases same
            exact inside
          · exact ih ended other later
        next => cases ended

end Loop

section Files

/-- A value that can be looked up in a set. -/
def IsHashable : Json → Prop
  | .arr _ | .obj _ => False
  | _ => True

/-- The object of a file that is read. -/
def fields? (entry : SpoolEntry) : Option JsonObject :=
  if entry.fault = none ∧ entry.file.isSymlink = false ∧ entry.file.size ≤ maxHookBytes then
    match entry.file.content with
    | .json (.obj fields) => some fields
    | .surrogateId fields => some fields
    | _ => none
  else none

/-- The file is read, and names a hook event. -/
def NamesEvent (entry : SpoolEntry) : Prop :=
  ∃ fields ∈ fields? entry, ∃ name ∈ hookEvents,
    dictGet fields "hook_event_name" = some (.str name)

/-- Looking at a file raises nothing but the classes that are caught, the name of an event can be
looked up, and the id of an event can be recorded. -/
structure Harmless (entry : SpoolEntry) : Prop where
  faults : ∀ error ∈ entry.fault, error.errorType.name ∈ spoolErrors
  hashable : ∀ fields ∈ fields? entry, ∀ name, dictGet fields "hook_event_name" = some name →
    IsHashable name
  encodable : NamesEvent entry → ∀ fields, entry.file.content ≠ .surrogateId fields

/-- A spooled payload is an event, or none, or has a name that cannot be looked up. -/
theorem spooledRequest_cases (fields : JsonObject) :
    (∃ request, spooledRequest fields = .ok (some request) ∧
      ∃ name ∈ hookEvents, dictGet fields "hook_event_name" = some (.str name)) ∨
    (spooledRequest fields = .ok none ∧
      ∀ name, dictGet fields "hook_event_name" = some name →
        IsHashable name ∧ ∀ known ∈ hookEvents, name ≠ .str known) ∨
    ∃ error : PyError, spooledRequest fields = .error error ∧ error.errorType = .typeError ∧
      ∃ name, dictGet fields "hook_event_name" = some name ∧ ¬ IsHashable name := by
  unfold spooledRequest
  split
  next name named =>
    by_cases known : name ∈ hookEvents
    · rw [if_pos known]
      exact .inl ⟨_, rfl, name, known, named⟩
    · rw [if_neg known]
      refine .inr (.inl ⟨rfl, fun other same => ?_⟩)
      cases named.symm.trans same
      exact ⟨trivial, fun event member equal => known (Json.str.inj equal ▸ member)⟩
  next items named => exact .inr (.inr ⟨_, rfl, rfl, .arr items, named, id⟩)
  next fields named => exact .inr (.inr ⟨_, rfl, rfl, .obj fields, named, id⟩)
  next noText noArray noObject =>
    refine .inr (.inl ⟨rfl, fun name named => ?_⟩)
    cases name with
    | str text => exact (noText text named).elim
    | arr items => exact (noArray items named).elim
    | obj fields => exact (noObject fields named).elim
    | null | bool | int | float => exact ⟨trivial, fun _ _ equal => by cases equal⟩

/-- What a file that is read without an object is taken for. -/
theorem request_of_fields_none {entry : SpoolEntry} (quiet : entry.fault = none)
    (none : fields? entry = none) :
    entry.request = .ok Option.none ∨
      ∃ error, entry.request = .error error ∧ error.errorType.name ∈ spoolErrors := by
  unfold SpoolEntry.request SpoolFile.request
  rw [quiet]
  dsimp only
  split
  next => exact .inl rfl
  next plain =>
    rw [not_or, Bool.not_eq_true, Nat.not_lt] at plain
    unfold fields? at none
    rw [if_pos ⟨quiet, plain⟩] at none
    split
    next => exact .inr ⟨_, rfl, by decide⟩
    next => exact .inr ⟨_, rfl, by decide⟩
    next held =>
      rw [held] at none
      cases none
    next => exact .inl rfl
    next held =>
      rw [held] at none
      cases none

/-- What a file with an object is taken for. -/
theorem request_of_fields {entry : SpoolEntry} {fields : JsonObject}
    (holds : fields? entry = some fields) :
    (entry.request = spooledRequest fields ∧ ∀ other, entry.file.content ≠ .surrogateId other) ∨
      (entry.request = surrogateRequest fields ∧ entry.file.content = .surrogateId fields) := by
  unfold fields? at holds
  split at holds
  next readable =>
    obtain ⟨quiet, plain, short⟩ := readable
    have read : ¬ (entry.file.isSymlink ∨ maxHookBytes < entry.file.size) :=
      not_or.mpr ⟨Bool.eq_false_iff.mp plain, Nat.not_lt.mpr short⟩
    unfold SpoolEntry.request SpoolFile.request
    rw [quiet, if_neg read]
    split at holds
    next content =>
      cases holds
      rw [content]
      exact .inl ⟨rfl, fun _ equal => by cases equal⟩
    next content =>
      cases holds
      rw [content]
      exact .inr ⟨rfl, rfl⟩
    next => cases holds
  next => cases holds

/-- A file that cannot be read as an object has no fields. -/
theorem fields?_of_fault {entry : SpoolEntry} {error : PyError} (fault : entry.fault = some error) :
    fields? entry = none := by
  apply if_neg
  intro readable
  rw [fault] at readable
  cases readable.1

/-- A file names an event exactly when its field is one of the texts of the hooks. -/
theorem namesEvent_iff {entry : SpoolEntry} {fields : JsonObject}
    (holds : fields? entry = some fields) :
    NamesEvent entry ↔
      ∃ name ∈ hookEvents, dictGet fields "hook_event_name" = some (.str name) := by
  unfold NamesEvent
  rw [holds]
  constructor
  · rintro ⟨_, ⟨⟩, named⟩
    exact named
  · exact fun named => ⟨fields, rfl, named⟩

/-- A file that is taken for an event names one. -/
theorem namesEvent_of_event {entry : SpoolEntry} (event : entry.event ≠ none) :
    NamesEvent entry := by
  obtain ⟨request, found⟩ := Option.ne_none_iff_exists'.mp event
  have looked := request_of_event found
  cases fault : entry.fault with
  | some error =>
      unfold SpoolEntry.request at looked
      rw [fault] at looked
      cases looked
  | none =>
      cases holds : fields? entry with
      | none =>
          rcases request_of_fields_none fault holds with eventless | ⟨error, raised, _⟩
          · rw [looked] at eventless
            cases eventless
          · rw [looked] at raised
            cases raised
      | some fields =>
          rw [namesEvent_iff holds]
          have read : ∃ request, spooledRequest fields = .ok (some request) := by
            rcases request_of_fields holds with ⟨same, _⟩ | ⟨same, _⟩
            · exact ⟨request, same.symm.trans looked⟩
            · rw [same] at looked
              unfold surrogateRequest at looked
              split at looked
              next => cases looked
              next => exact ⟨request, looked⟩
          obtain ⟨request, read⟩ := read
          rcases spooledRequest_cases fields with ⟨_, _, named⟩ | ⟨eventless, _⟩ | ⟨_, raised, _⟩
          · exact named
          · rw [read] at eventless
            cases eventless
          · rw [read] at raised
            cases raised

/-- A file that cannot be read is harmless when the class of what is raised is caught. -/
theorem harmless_of_fault {entry : SpoolEntry} {error : PyError}
    (fault : entry.fault = some error) :
    Harmless entry ↔ Caught entry := by
  have raised : entry.request = .error error := by
    unfold SpoolEntry.request
    rw [fault]
  have none := fields?_of_fault fault
  constructor
  · intro harmless other same
    cases raised.symm.trans same
    exact harmless.faults error fault
  · intro caught
    refine ⟨fun other given => ?_, fun fields holds => ?_, fun ⟨fields, holds, _⟩ => ?_⟩
    · cases fault.symm.trans given
      exact caught error raised
    · cases none.symm.trans holds
    · cases none.symm.trans holds

/-- An object in a file is harmless when its name can be looked up and its id recorded. -/
theorem harmless_of_fields {entry : SpoolEntry} {fields : JsonObject}
    (holds : fields? entry = some fields) :
    Harmless entry ↔ Caught entry ∧ (NamesEvent entry → entry.event ≠ none) := by
  have quiet : entry.fault = none := by
    by_contra fault
    obtain ⟨error, fault⟩ := Option.ne_none_iff_exists'.mp fault
    cases (fields?_of_fault fault).symm.trans holds
  have faultless : ∀ error ∈ entry.fault, error.errorType.name ∈ spoolErrors := by
    rw [quiet]
    exact fun error absent => (Option.not_mem_none error absent).elim
  have only : ∀ other ∈ fields? entry, other = fields := fun other same =>
    Option.some.inj (same.symm.trans holds)
  rcases spooledRequest_cases fields with ⟨request, read, name, known, named⟩ |
    ⟨read, names⟩ | ⟨error, raised, kind, name, named, unhashable⟩
  · have hashable : ∀ other ∈ fields? entry, ∀ value,
        dictGet other "hook_event_name" = some value → IsHashable value := by
      intro other same value given
      rw [only other same] at given
      cases named.symm.trans given
      trivial
    have event : NamesEvent entry := (namesEvent_iff holds).mpr ⟨name, known, named⟩
    rcases request_of_fields holds with ⟨looked, encodable⟩ | ⟨looked, surrogate⟩
    · rw [read] at looked
      refine iff_of_true ⟨faultless, hashable, fun _ => encodable⟩ ⟨fun error same => ?_,
        fun _ => ?_⟩
      · cases looked.symm.trans same
      · unfold SpoolEntry.event
        rw [looked]
        exact Option.some_ne_none request
    · have looked : entry.request = .error ⟨.other "UnicodeEncodeError", ""⟩ := by
        rw [looked, surrogateRequest, read]
      refine iff_of_false (fun harmless => harmless.encodable event fields surrogate) fun both => ?_
      apply both.2 event
      unfold SpoolEntry.event
      rw [looked]
  · have eventless : ¬ NamesEvent entry := by
      rw [namesEvent_iff holds]
      rintro ⟨name, known, named⟩
      exact (names _ named).2 name known rfl
    have looked : entry.request = .ok none := by
      rcases request_of_fields holds with ⟨looked, _⟩ | ⟨looked, _⟩
      · exact looked.trans read
      · rw [looked, surrogateRequest, read]
    refine iff_of_true ⟨faultless, fun other same value given => ?_,
      fun event => (eventless event).elim⟩ ⟨fun error same => ?_, fun event =>
        (eventless event).elim⟩
    · rw [only other same] at given
      exact (names value given).1
    · cases looked.symm.trans same
  · have looked : entry.request = .error error := by
      rcases request_of_fields holds with ⟨looked, _⟩ | ⟨looked, _⟩
      · exact looked.trans raised
      · rw [looked, surrogateRequest, raised]
    refine iff_of_false (fun harmless => unhashable (harmless.hashable fields holds name named))
      fun both => ?_
    have caught := both.1 error looked
    rw [kind] at caught
    exact absurd caught (by decide)

/-- A file is harmless exactly when what it raises is caught and the event that it names, if it
names one, can be recorded. -/
theorem harmless_iff (entry : SpoolEntry) :
    Harmless entry ↔ Caught entry ∧ (NamesEvent entry → entry.event ≠ none) := by
  cases holds : fields? entry with
  | some fields => exact harmless_of_fields holds
  | none =>
      have eventless : ¬ NamesEvent entry := fun ⟨fields, found, _⟩ => by
        cases holds.symm.trans found
      rw [and_iff_left fun event => (eventless event).elim]
      cases fault : entry.fault with
      | some error => exact harmless_of_fault fault
      | none =>
          refine iff_of_true ⟨fun error given => ?_, fun fields found => ?_,
            fun event => (eventless event).elim⟩ fun error raised => ?_
          · cases fault.symm.trans given
          · cases holds.symm.trans found
          · rcases request_of_fields_none fault holds with read | ⟨other, same, inside⟩
            · cases read.symm.trans raised
            · cases same.symm.trans raised
              exact inside

end Files

/-- What the drain of a spool is for: nothing is raised, new events are enqueued once, and the files
of events are removed. -/
structure Drained (before : Spool) (outcome : Except PyError Unit × Spool) : Prop where
  quiet : outcome.1 = .ok ()
  recorded : ∀ key, outcome.2.database.Recorded key ↔ before.database.Recorded key ∨
    ∃ entry ∈ before.entries, ∃ request, entry.event = some request ∧ request.key = some key
  notified : ∃ requests rows, EnqueuedOnce before.database.Recorded
      (eventsOf (before.entries.insertionSort fun first second =>
        first.file.name ≤ second.file.name))
      requests ∧
    outcome.2.database.outbox.rows = before.database.outbox.rows ++ rows ∧
      List.Forall₂ Notifies rows requests
  left : ∀ entry, entry ∈ outcome.2.entries ↔ entry ∈ before.entries ∧ ¬ NamesEvent entry

/-- The spool is drained exactly when no file raises what is not caught, or names an event whose id
cannot be recorded. -/
theorem drained_iff (delay : Instant) (spool : Spool) :
    Drained spool (spool.drainSpool delay) ↔ ∀ entry ∈ spool.entries, Harmless entry := by
  let before (first second : SpoolEntry) : Prop := first.file.name ≤ second.file.name
  have sorted : ∀ entry, entry ∈ spool.entries.insertionSort before ↔ entry ∈ spool.entries :=
    fun entry => (List.perm_insertionSort before spool.entries).mem_iff
  constructor
  · intro drained entry member
    have caught := caught_of_drain drained.quiet
    refine (harmless_iff entry).mpr ⟨caught entry ((sorted entry).mpr member),
      fun named event => ?_⟩
    -- a file whose event is not in hand stays
    obtain ⟨after, ended, taken⟩ := drain_of_caught delay spool caught
    have stays : entry ∈ after.entries := by
      refine (taken.left entry).mpr ⟨member, fun other also ⟨holds, same⟩ => ?_⟩
      have names := List.inj_on_of_nodup_map spool.names ((sorted other).mp also) member same
      exact holds (names ▸ event)
    have left := drained.left entry
    unfold drainSpool at left
    rw [ended] at left
    exact (left.mp stays).2 named
  · intro harmless
    obtain ⟨after, ended, taken⟩ := drain_of_caught delay spool fun entry member =>
      ((harmless_iff entry).mp (harmless entry ((sorted entry).mp member))).1
    unfold drainSpool
    rw [ended]
    refine ⟨rfl, fun key => ?_, taken.notified, fun other => ?_⟩
    · rw [taken.recorded key, List.mem_filterMap]
      apply or_congr_right
      constructor
      · rintro ⟨request, listed, named⟩
        obtain ⟨entry, member, event⟩ := List.mem_filterMap.mp listed
        exact ⟨entry, (sorted entry).mp member, request, event, named⟩
      · rintro ⟨entry, member, request, event, named⟩
        exact ⟨request, List.mem_filterMap.mpr ⟨entry, (sorted entry).mpr member, event⟩, named⟩
    · rw [taken.left other]
      apply and_congr_right
      intro inside
      constructor
      · intro kept named
        have event := ((harmless_iff other).mp (harmless other inside)).2 named
        exact kept other ((sorted other).mpr inside) ⟨event, rfl⟩
      · rintro eventless entry member ⟨event, same⟩
        have names := List.inj_on_of_nodup_map spool.names ((sorted entry).mp member) inside same
        rw [names] at event
        exact eventless (namesEvent_of_event event)

section Daemon

variable {delay : Instant} {spool : Spool} {entry : SpoolEntry} {state : HookState}
  {rest : List SpoolFile}

/-- The daemon has this database and this directory. -/
structure ShownBy (spool : Spool) (state : HookState) : Prop where
  database : state.database = spool.database
  files : state.spool = spool.entries.map SpoolEntry.file

/-- Writing the tables is seen by whoever sees the spool. -/
theorem ShownBy.write (shown : spool.ShownBy state) (database : Database) :
    (spool.write database).ShownBy { state with database := database } :=
  ⟨rfl, shown.files⟩

/-- A step in front of a run makes a longer run. -/
theorem reaches_step {middle target : HookState} (event : HookEvent)
    (stepped : state.step delay event = some middle)
    (later : (hookSystem delay).Reaches middle target) :
    (hookSystem delay).Reaches state target :=
  System.ReachesVia.trans (.step event .refl trivial stepped) later

/-- The phase after a file was looked at. -/
def phaseAfter (rest : List SpoolFile) : Except PyError Unit → HookPhase
  | .ok _ => .draining none rest
  | .error error => if error.errorType.name ∈ spoolErrors then .draining none rest else .stopped

variable (delay)

/-- The file of an event is removed. -/
theorem unlink_reaches {name : String} (shown : spool.ShownBy state)
    (inHand : state.phase = .draining (some ⟨name, some entry.file, .unlink⟩) rest) :
    ∃ after, (hookSystem delay).Reaches state after ∧ (spool.unlink entry).ShownBy after ∧
      after.phase = .draining none rest := by
  let after : HookState := { state with
    spool := state.spool.filter fun file => some file.name ≠ some entry.file.name
    phase := .draining none rest }
  have stepped : state.step delay (.proceed 0 []) = some after := by
    unfold HookState.step
    dsimp only
    rw [inHand]
    unfold HookState.operate HookPhase.goOn
    dsimp only [HookPhase.ingestion, Option.map_some]
    rw [inHand]
    rfl
  refine ⟨after, reaches_step _ stepped .refl, ⟨shown.database, ?_⟩, rfl⟩
  change state.spool.filter _ = (spool.entries.filter _).map _
  rw [shown.files, List.filter_map]
  refine congrArg _ (List.filter_congr fun other _ => ?_)
  rw [Function.comp_apply, Bool.eq_iff_iff, decide_eq_true_eq, bne_iff_ne, Ne, Option.some.injEq,
    eq_comm]

/-- The event in hand is enqueued, and its file is removed. -/
theorem enqueue_reaches {key : Option String} {name : String} (shown : spool.ShownBy state)
    (inHand : state.phase = .draining (some ⟨name, some entry.file, .enqueue key⟩) rest) :
    ∃ after, (hookSystem delay).Reaches state after ∧
      (spool.enqueue delay entry name).2.ShownBy after ∧
        after.phase = phaseAfter rest (spool.enqueue delay entry name).1 := by
  obtain ⟨outboxId, setting, ran⟩ := enqueueOutbox_faultless entry.createdAt spool.database name
    delay
    fun _ (absent : _ ∈ ([] : List (Option PyError))) => (List.not_mem_nil absent).elim
  have enqueued : spool.enqueue delay entry name =
      (.ok (), (spool.write setting.data).unlink entry) := by
    unfold enqueue
    rw [ran]
  let middle : HookState := { state with
    database := setting.data
    enqueued := state.enqueued ++ [(key, outboxId)]
    phase := .draining (some ⟨name, some entry.file, .unlink⟩) rest
    succeeded := state.succeeded ++ key.toList }
  have stepped : state.step delay (.proceed entry.createdAt []) = some middle := by
    unfold HookState.step
    dsimp only
    rw [inHand]
    unfold HookState.operate
    dsimp only [HookPhase.ingestion, Option.map_some]
    rw [shown.database, ran]
    unfold HookState.finish HookPhase.goOn
    dsimp only
    rw [inHand]
    rfl
  have written : (spool.write setting.data).ShownBy middle := ⟨rfl, shown.files⟩
  obtain ⟨after, reached, gone, phase⟩ := unlink_reaches delay written rfl
  rw [enqueued]
  exact ⟨after, reaches_step _ stepped reached, gone, phase⟩

/-- The event in hand is recorded and enqueued, unless it was recorded before. -/
theorem record_reaches {key name : String} (shown : spool.ShownBy state)
    (inHand : state.phase = .draining (some ⟨name, some entry.file, .record key⟩) rest) :
    ∃ after, (hookSystem delay).Reaches state after ∧
      (spool.record delay entry key name).2.ShownBy after ∧
        after.phase = phaseAfter rest (spool.record delay entry key name).1 := by
  have ran := recordEventOnce_eq key entry.receivedAt spool.database
  have stepped : state.step delay (.proceed entry.receivedAt []) =
      some (state.operate delay ⟨name, some entry.file, .record key⟩ entry.receivedAt []) := by
    unfold HookState.step
    dsimp only
    rw [inHand]
    rfl
  unfold HookState.operate at stepped
  dsimp only at stepped
  rw [shown.database, ran] at stepped
  unfold record
  rw [ran]
  cases new : (spool.database.insertEventOrIgnore ⟨key, .instant entry.receivedAt⟩).1 == 1 with
  | false =>
      rw [new] at stepped
      unfold HookState.finish HookPhase.goOn at stepped
      dsimp only at stepped
      rw [inHand] at stepped
      let middle : HookState := { state with
        database := (spool.database.insertEventOrIgnore ⟨key, .instant entry.receivedAt⟩).2
        phase := .draining (some ⟨name, some entry.file, .unlink⟩) rest
        succeeded := state.succeeded ++ [key] }
      have next : middle.phase = .draining (some ⟨name, some entry.file, .unlink⟩) rest := rfl
      have shows : (spool.write (spool.database.insertEventOrIgnore
        ⟨key, .instant entry.receivedAt⟩).2).ShownBy middle := ⟨rfl, shown.files⟩
      obtain ⟨after, reached, rows, phase⟩ := unlink_reaches delay shows next
      exact ⟨after, reaches_step _ stepped reached, rows, phase⟩
  | true =>
      rw [new] at stepped
      unfold HookPhase.goOn at stepped
      dsimp only at stepped
      rw [inHand] at stepped
      let middle : HookState := { state with
        database := (spool.database.insertEventOrIgnore ⟨key, .instant entry.receivedAt⟩).2
        phase := .draining (some ⟨name, some entry.file, .enqueue (some key)⟩) rest }
      have next : middle.phase = .draining (some ⟨name, some entry.file, .enqueue (some key)⟩)
          rest := rfl
      have shows : (spool.write (spool.database.insertEventOrIgnore
        ⟨key, .instant entry.receivedAt⟩).2).ShownBy middle := ⟨rfl, shown.files⟩
      obtain ⟨after, reached, rows, phase⟩ := enqueue_reaches delay shows next
      exact ⟨after, reaches_step _ stepped reached, rows, phase⟩

/-- The daemon takes a file in steps. -/
theorem take_reaches (shown : spool.ShownBy state)
    (draining : state.phase = .draining none (entry.file :: rest)) :
    ∃ after, (hookSystem delay).Reaches state after ∧ (spool.take delay entry).2.ShownBy after ∧
      after.phase = phaseAfter rest (spool.take delay entry).1 := by
  have looks : ∀ looked, entry.request = looked → state.step delay (.drainNext entry.fault) =
      match looked with
      | .error error => some ({ state with phase := .draining none rest }.fail error)
      | .ok none => some { state with phase := .draining none rest }
      | .ok (some request) =>
          some { state with
            phase := .draining (some (request.ingestion (some entry.file))) rest } := by
    rintro _ rfl
    unfold HookState.step SpoolEntry.request
    dsimp only
    rw [draining]
    dsimp only
    cases entry.fault with
    | some error => rfl
    | none =>
        cases entry.file.request with
        | error error => rfl
        | ok found =>
            cases found with
            | none => rfl
            | some request => rfl
  cases looked : entry.request with
  | error error =>
      refine ⟨_, reaches_step _ (looks _ looked) .refl, ?_, ?_⟩
      · unfold take
        rw [looked]
        unfold HookState.fail
        dsimp only
        split
        next => exact ⟨shown.database, shown.files⟩
        next => exact ⟨shown.database, shown.files⟩
      · unfold take
        rw [looked]
        unfold HookState.fail phaseAfter
        dsimp only
        split
        next => rfl
        next => rfl
  | ok found =>
      cases found with
      | none =>
          refine ⟨_, reaches_step _ (looks _ looked) .refl, ?_, ?_⟩
          · unfold take
            rw [looked]
            exact ⟨shown.database, shown.files⟩
          · unfold take
            rw [looked]
            rfl
      | some request =>
          have opened := looks _ looked
          unfold HookRequest.ingestion at opened
          unfold take
          rw [looked]
          dsimp only at opened ⊢
          cases named : request.key with
          | none =>
              rw [named] at opened
              let middle : HookState := { state with
                phase := .draining (some ⟨request.name, some entry.file, .enqueue none⟩) rest }
              have inHand : middle.phase =
                .draining (some ⟨request.name, some entry.file, .enqueue none⟩) rest := rfl
              have shows : spool.ShownBy middle := ⟨shown.database, shown.files⟩
              obtain ⟨after, reached, rows, phase⟩ := enqueue_reaches delay shows inHand
              exact ⟨after, reaches_step _ opened reached, rows, phase⟩
          | some key =>
              rw [named] at opened
              let middle : HookState := { state with
                phase := .draining (some ⟨request.name, some entry.file, .record key⟩) rest }
              have inHand : middle.phase =
                .draining (some ⟨request.name, some entry.file, .record key⟩) rest := rfl
              have shows : spool.ShownBy middle := ⟨shown.database, shown.files⟩
              obtain ⟨after, reached, rows, phase⟩ := record_reaches delay shows inHand
              exact ⟨after, reaches_step _ opened reached, rows, phase⟩

/-- The drain is a run of the daemon. -/
theorem drain_reaches {entries : List SpoolEntry} (shown : spool.ShownBy state)
    (draining : state.phase = .draining none (entries.map SpoolEntry.file)) :
    ∃ after, (hookSystem delay).Reaches state after ∧ (spool.drain delay entries).2.ShownBy after ∧
      after.phase = match (spool.drain delay entries).1 with
        | .ok _ => .serving none
        | .error _ => .stopped := by
  induction entries generalizing spool state with
  | nil =>
      have stepped : state.step delay (.drainNext none) =
          some { state with phase := .serving none } := by
        unfold HookState.step
        dsimp only
        rw [draining]
        rfl
      exact ⟨_, reaches_step _ stepped .refl, ⟨shown.database, shown.files⟩, rfl⟩
  | cons entry entries ih =>
      obtain ⟨middle, reached, shows, phase⟩ := take_reaches delay shown draining
      unfold drain
      cases taken : spool.take delay entry with
      | mk outcome next =>
          rw [taken] at shows phase
          cases outcome with
          | error error =>
              unfold phaseAfter at phase
              dsimp only at phase ⊢
              split
              next inside =>
                rw [if_pos inside] at phase
                obtain ⟨after, later, ended, last⟩ := ih shows phase
                exact ⟨after, reached.trans later, ended, last⟩
              next outside =>
                rw [if_neg outside] at phase
                exact ⟨middle, reached, shows, phase⟩
          | ok _ =>
              obtain ⟨after, later, ended, last⟩ := ih shows phase
              exact ⟨after, reached.trans later, ended, last⟩

/-- The start of the daemon drains the spool. -/
theorem drainSpool_reaches (shown : spool.ShownBy state) (stopped : state.phase = .stopped) :
    ∃ after, (hookSystem delay).Reaches state after ∧ (spool.drainSpool delay).2.ShownBy after ∧
      after.phase = match (spool.drainSpool delay).1 with
        | .ok _ => .serving none
        | .error _ => .stopped := by
  let draining : HookState := { state with
    phase := .draining none ((spool.entries.insertionSort fun first second =>
      first.file.name ≤ second.file.name).map SpoolEntry.file) }
  have sorted : state.spool.insertionSort (fun first second => first.name ≤ second.name) =
      (spool.entries.insertionSort fun first second => first.file.name ≤ second.file.name).map
        SpoolEntry.file := by
    rw [shown.files]
    exact (List.map_insertionSort (fun first second : SpoolEntry =>
      first.file.name ≤ second.file.name)
      (fun first second : SpoolFile => first.name ≤ second.name) SpoolEntry.file spool.entries
      fun _ _ _ _ => Iff.rfl).symm
  have stepped : state.step delay .start = some draining := by
    unfold HookState.step
    dsimp only
    rw [stopped]
    dsimp only
    exact congrArg (fun files => some { state with phase := HookPhase.draining none files }) sorted
  have shows : spool.ShownBy draining := ⟨shown.database, shown.files⟩
  obtain ⟨after, reached, ended, phase⟩ := drain_reaches delay shows rfl
  exact ⟨after, reaches_step _ stepped reached, ended, phase⟩

end Daemon

/-- A file of the spool with this payload. -/
def payloadEntry (name : String) (payload : JsonObject) : SpoolEntry :=
  ⟨⟨name, false, 64, .json (.obj payload)⟩, none, 0, 0⟩

def blockedEntries : List SpoolEntry :=
  [payloadEntry "hook-1.json" [("hook_event_name", .arr [])],
    payloadEntry "hook-2.json" [("hook_event_name", .str "Stop")]]

/-- The files have different names. -/
theorem blockedEntries_names : (blockedEntries.map fun entry => entry.file.name).Nodup := by
  decide

def blockedSpool : Spool := ⟨.empty, blockedEntries, blockedEntries_names⟩

/-- The event after a file with a list for a name is left in the spool. -/
theorem list_name_blocks :
    (blockedSpool.drainSpool 0).1 = .error ⟨.typeError, "unhashable type: 'list'"⟩ ∧
      (blockedSpool.drainSpool 0).2.database.outbox.rows = [] ∧
      (blockedSpool.drainSpool 0).2.entries.map (·.file.name) = ["hook-1.json", "hook-2.json"] := by
  decide

end Spool

end LarkBot
