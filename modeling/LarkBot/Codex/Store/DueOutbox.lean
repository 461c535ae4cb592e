import LarkBot.Foundation.Run
import LarkBot.Core.Timestamps
import LarkBot.Codex.Store.Outbox

/-! # The outbox as it is stored

The database holds the times of an outbox row as texts and compares them as texts. The texts of
`serialize_datetime` are ordered like their instants, so a stored outbox does what the outbox of
`LarkBot.SQLiteCodexStore` does (`LarkBot.OutboxStore.Represents`): after every run, the rows
that are due are those that were never marked as sent and whose latest scheduled instant is not
after now.
-/

namespace LarkBot

open Foundation

/-- A row of `notification_outbox`, with its times as texts. -/
structure OutboxText where
  id : Nat
  sessionId : Option String
  agent : Option String
  sessionName : Option String
  interactionId : Option String
  notificationType : String
  payloadSummary : String
  attemptCount : Nat
  nextAttemptAt : String
  sentAt : Option String
  lastError : Option String
  createdAt : String
  deriving DecidableEq, Repr

/-- `_outbox_from_row`. -/
def outboxFromRow (row : OutboxText) : Except PyError NotificationOutboxItem := do
  let nextAttemptAt ← fromIsoformat row.nextAttemptAt
  let sentAt ← match row.sentAt with
    | none => .ok none
    | some text => (fromIsoformat text).map some
  let createdAt ← fromIsoformat row.createdAt
  return {
    id := row.id, sessionId := row.sessionId, agent := row.agent, sessionName := row.sessionName,
    interactionId := row.interactionId, notificationType := row.notificationType,
    payloadSummary := row.payloadSummary, attemptCount := row.attemptCount, nextAttemptAt, sentAt,
    lastError := row.lastError, createdAt }

/-- An integer as a parameter of a statement. -/
def sqliteInteger (value : Int) : Except PyError Int :=
  if -9223372036854775808 ≤ value ∧ value < 9223372036854775808 then .ok value
  else .error ⟨.other "OverflowError", "Python int too large to convert to SQLite INTEGER"⟩

/-- `LIMIT ?`, where a negative number means all rows. -/
def firstRows {ρ : Type} (limit : Int) (rows : List ρ) : List ρ :=
  if limit < 0 then rows else rows.take limit.toNat

/-- The keyword arguments of `enqueue_outbox`. -/
structure OutboxArguments where
  notificationType : String
  payloadSummary : String
  sessionId : Option String
  agent : Option String
  sessionName : Option String
  interactionId : Option String
  nextAttemptAt : Option DateTime
  createdAt : Option DateTime

/-- The tables, and the outbox as it is stored. -/
structure OutboxStore where
  tables : CodexTables
  outbox : Sequenced OutboxText OutboxText.id

namespace OutboxText

/-- `ORDER BY next_attempt_at, id`. -/
def DueBefore (first second : OutboxText) : Prop :=
  first.nextAttemptAt < second.nextAttemptAt ∨
    first.nextAttemptAt = second.nextAttemptAt ∧ first.id ≤ second.id

instance : DecidableRel DueBefore := fun _ _ => inferInstanceAs (Decidable (_ ∨ _))

/-- `SET sent_at = ?, last_error = NULL`. -/
def markSent (sentAt : String) (row : OutboxText) : OutboxText :=
  { row with sentAt := some sentAt, lastError := none }

/-- `SET attempt_count = attempt_count + 1, next_attempt_at = ?, last_error = ?`. -/
def reschedule (nextAttemptAt error : String) (row : OutboxText) : OutboxText :=
  { row with
    attemptCount := row.attemptCount + 1
    nextAttemptAt
    lastError := some (safeSummary error) }

/-- Marking a row as sent leaves its id. -/
theorem markSent_id (sentAt : String) (row : OutboxText) : (row.markSent sentAt).id = row.id := rfl

/-- Rescheduling a row leaves its id. -/
theorem reschedule_id (nextAttemptAt error : String) (row : OutboxText) :
    (row.reschedule nextAttemptAt error).id = row.id := rfl

/-- `WHERE id = ? AND sent_at IS NULL`. -/
def isUnsent (outboxId : Int) (row : OutboxText) : Bool :=
  (row.id : Int) == outboxId && row.sentAt.isNone

end OutboxText

namespace OutboxStore

variable (store : OutboxStore)

/-- The row that the arguments insert. -/
def insertedRow (arguments : OutboxArguments) (nextAttemptAt createdAt : String) : OutboxText where
  id := store.outbox.last + 1
  sessionId := arguments.sessionId
  agent := arguments.agent
  sessionName := arguments.sessionName
  interactionId := arguments.interactionId
  notificationType := arguments.notificationType
  payloadSummary := safeSummary arguments.payloadSummary
  attemptCount := 0
  nextAttemptAt := nextAttemptAt
  sentAt := none
  lastError := none
  createdAt := createdAt

/-- A new row has the next id of its table. -/
theorem insertedRow_id (arguments : OutboxArguments) (nextAttemptAt createdAt : String) :
    (store.insertedRow arguments nextAttemptAt createdAt).id = store.outbox.last + 1 := rfl

/-- The references of a row point to stored rows. -/
def Refers (sessionId interactionId : Option String) : Prop :=
  (∀ id ∈ sessionId, (store.tables.getSession id).isSome) ∧
    ∀ id ∈ interactionId, (store.tables.getInteraction id).isSome

instance (sessionId interactionId : Option String) :
    Decidable (store.Refers sessionId interactionId) :=
  inferInstanceAs (Decidable (_ ∧ _))

/-- When a row is due first. -/
def dueTime (arguments : OutboxArguments) (clock : DateTime) : DateTime :=
  arguments.nextAttemptAt.getD (arguments.createdAt.getD clock)

/-- `enqueue_outbox`, with the reading of its clock. -/
def enqueueOutbox (arguments : OutboxArguments) (clock : DateTime) :
    Except PyError (Nat × OutboxStore) := do
  let nextAttemptAt ← serializeDatetime (dueTime arguments clock)
  let createdAt ← serializeDatetime (arguments.createdAt.getD clock)
  if store.Refers arguments.sessionId arguments.interactionId then
    return (store.outbox.last + 1, { store with
      outbox := store.outbox.insert (store.insertedRow arguments nextAttemptAt createdAt)
        (store.insertedRow_id arguments nextAttemptAt createdAt) })
  else .error (CodexTables.integrityError "FOREIGN KEY")

/-- `list_due_outbox`, with the reading of its clock. -/
def listDueOutbox (now : Option DateTime) (clock : DateTime) (limit : Int) :
    Except PyError (List NotificationOutboxItem) := do
  let nowText ← serializeDatetime (now.getD clock)
  let limit ← sqliteInteger limit
  let due := store.outbox.rows.filter fun row =>
    row.sentAt.isNone && decide (row.nextAttemptAt ≤ nowText)
  (firstRows limit (due.insertionSort OutboxText.DueBefore)).mapM outboxFromRow

/-- `mark_outbox_sent`, with the reading of its clock. -/
def markOutboxSent (outboxId : Int) (sentAt : Option DateTime) (clock : DateTime) :
    Except PyError (Bool × OutboxStore) := do
  let sentAt ← serializeDatetime (sentAt.getD clock)
  let outboxId ← sqliteInteger outboxId
  return (rowcount (OutboxText.isUnsent outboxId) store.outbox.rows == 1, { store with
    outbox := store.outbox.update (OutboxText.isUnsent outboxId) (OutboxText.markSent sentAt)
      (OutboxText.markSent_id sentAt) })

def recordOutboxFailure (outboxId : Int) (error : String) (nextAttemptAt : DateTime) :
    Except PyError (Bool × OutboxStore) := do
  let nextAttemptAt ← serializeDatetime nextAttemptAt
  let outboxId ← sqliteInteger outboxId
  return (rowcount (OutboxText.isUnsent outboxId) store.outbox.rows == 1, { store with
    outbox := store.outbox.update (OutboxText.isUnsent outboxId)
      (OutboxText.reschedule nextAttemptAt error) (OutboxText.reschedule_id nextAttemptAt error) })

end OutboxStore

/-- The unsent rows that are due, in order. -/
def SQLiteCodexStore.dueItems (store : SQLiteCodexStore) (now : Instant) :
    List NotificationOutboxItem :=
  (store.outbox.filter fun item =>
    item.sentAt.isNone && decide (item.nextAttemptAt ≤ now)).insertionSort DueBefore

/-- The rows that are due are the first of those that are due without a limit. -/
theorem SQLiteCodexStore.listDueOutbox_eq (store : SQLiteCodexStore) (now : Instant)
    (limit : Nat) : store.listDueOutbox now limit = firstRows limit (store.dueItems now) := by
  unfold firstRows
  rw [if_neg (by omega), Int.toNat_natCast]
  rfl

namespace NotificationOutboxItem

/-- The row as the database stores it. -/
def toText (item : NotificationOutboxItem) : OutboxText where
  id := item.id
  sessionId := item.sessionId
  agent := item.agent
  sessionName := item.sessionName
  interactionId := item.interactionId
  notificationType := item.notificationType
  payloadSummary := item.payloadSummary
  attemptCount := item.attemptCount
  nextAttemptAt := isoformat item.nextAttemptAt
  sentAt := item.sentAt.map isoformat
  lastError := item.lastError
  createdAt := isoformat item.createdAt

/-- The times of the row can be written. -/
structure TimesInRange (item : NotificationOutboxItem) : Prop where
  nextAttemptAt : InRange item.nextAttemptAt
  sentAt : ∀ instant ∈ item.sentAt, InRange instant
  createdAt : InRange item.createdAt

variable {item : NotificationOutboxItem} {items : List NotificationOutboxItem}

/-- An item whose times are in range is read back from its row. -/
theorem outboxFromRow_toText (times : item.TimesInRange) : outboxFromRow item.toText =
    .ok item := by
  obtain ⟨next, sent, created⟩ := times
  unfold outboxFromRow toText
  dsimp only
  rw [fromIsoformat_isoformat next, fromIsoformat_isoformat created]
  cases sentAt : item.sentAt with
  | none =>
      cases item
      cases sentAt
      rfl
  | some instant =>
      have read := fromIsoformat_isoformat (sent instant sentAt)
      rw [Option.map_some]
      dsimp only
      rw [read]
      cases item
      cases sentAt
      rfl

/-- Items whose times are all in range are read back from their rows. -/
theorem mapM_toText (times : ∀ item ∈ items, item.TimesInRange) :
    (items.map toText).mapM outboxFromRow = .ok items := by
  induction items with
  | nil => rfl
  | cons item items ih =>
      rw [List.map_cons, List.mapM_cons, outboxFromRow_toText (times item (List.mem_cons_self ..)),
        ih fun other member => times other (List.mem_cons_of_mem _ member)]
      rfl

end NotificationOutboxItem

/-- Limiting the rows goes along with any change of the rows. -/
theorem firstRows_map {α β : Type} (change : α → β) (limit : Int) (rows : List α) :
    firstRows limit (rows.map change) = (firstRows limit rows).map change := by
  unfold firstRows
  split
  next => rfl
  next => rw [List.map_take]

/-- A row within the limit is one of the rows. -/
theorem mem_of_firstRows {α : Type} {limit : Int} {rows : List α} {row : α}
    (member : row ∈ firstRows limit rows) : row ∈ rows := by
  unfold firstRows at member
  split at member
  next => exact member
  next => exact List.mem_of_mem_take member

namespace OutboxStore

/-- The stored outbox is an outbox of instants, written as texts and numbered. -/
structure Represents (store : OutboxStore) (model : SQLiteCodexStore) : Prop where
  tables : store.tables = model.tables
  rows : store.outbox.rows = model.outbox.map NotificationOutboxItem.toText
  last : store.outbox.last = model.outbox.length
  times : ∀ item ∈ model.outbox, item.TimesInRange
  ids : model.outbox.map NotificationOutboxItem.id = List.range' 1 model.outbox.length

variable {store after : OutboxStore} {model : SQLiteCodexStore}

/-- The rows that are due in the stored outbox are those of the instants. -/
theorem Represents.listDueOutbox (represents : store.Represents model) {now : Option DateTime}
    {clock : DateTime} {limit : Int} (inRange : InRange (asUtc (now.getD clock)))
    (integer : sqliteInteger limit = .ok limit) :
    store.listDueOutbox now clock limit =
      .ok (firstRows limit (model.dueItems (asUtc (now.getD clock)))) := by
  have due : (model.outbox.map NotificationOutboxItem.toText).filter (fun row =>
      row.sentAt.isNone && decide (row.nextAttemptAt ≤ isoformat (asUtc (now.getD clock)))) =
      (model.outbox.filter fun item => item.sentAt.isNone &&
        decide (item.nextAttemptAt ≤ asUtc (now.getD clock))).map NotificationOutboxItem.toText :=
          by
    rw [List.filter_map]
    congr 1
    apply List.filter_congr
    intro item member
    have next := (represents.times item member).nextAttemptAt
    simp only [Function.comp_apply, NotificationOutboxItem.toText, Option.isNone_map,
      isoformat_le_iff next inRange]
  have sorted : ((model.outbox.filter fun item => item.sentAt.isNone &&
      decide (item.nextAttemptAt ≤ asUtc (now.getD clock))).map
        NotificationOutboxItem.toText).insertionSort OutboxText.DueBefore =
      (model.dueItems (asUtc (now.getD clock))).map NotificationOutboxItem.toText := by
    refine (List.map_insertionSort _ _ _ _ fun first firstMem second secondMem => ?_).symm
    have firstRange := (represents.times first (List.mem_of_mem_filter firstMem)).nextAttemptAt
    have secondRange := (represents.times second (List.mem_of_mem_filter secondMem)).nextAttemptAt
    unfold SQLiteCodexStore.DueBefore OutboxText.DueBefore NotificationOutboxItem.toText
    simp only [isoformat_lt_iff firstRange secondRange, isoformat_inj firstRange secondRange]
  unfold OutboxStore.listDueOutbox serializeDatetime
  rw [if_pos inRange, integer, represents.rows]
  change (firstRows limit (((model.outbox.map NotificationOutboxItem.toText).filter fun row =>
    row.sentAt.isNone && decide
      (row.nextAttemptAt ≤ isoformat (asUtc (now.getD clock)))).insertionSort
      OutboxText.DueBefore)).mapM outboxFromRow = _
  rw [due, sorted, firstRows_map, NotificationOutboxItem.mapM_toText]
  intro item member
  have stored := (List.mem_insertionSort _).mp (mem_of_firstRows member)
  exact represents.times item (List.mem_of_mem_filter stored)

/-- A value that was written had a date. -/
theorem serializeDatetime_ok {value : DateTime} {text : String}
    (written : serializeDatetime value = .ok text) :
    InRange (asUtc value) ∧ text = isoformat (asUtc value) := by
  unfold serializeDatetime at written
  split at written
  next inRange => exact ⟨inRange, (Except.ok.inj written).symm⟩
  next => cases written

/-- An integer that SQLite takes is passed as it is. -/
theorem sqliteInteger_ok {value integer : Int} (bound : sqliteInteger value = .ok integer) :
    integer = value := by
  unfold sqliteInteger at bound
  split at bound
  next => exact (Except.ok.inj bound).symm
  next => cases bound

/-- The entry that the arguments make. -/
def entryOf (arguments : OutboxArguments) (clock : DateTime) : SQLiteCodexStore.OutboxEntry where
  notificationType := arguments.notificationType
  payloadSummary := arguments.payloadSummary
  sessionId := arguments.sessionId
  agent := arguments.agent
  sessionName := arguments.sessionName
  interactionId := arguments.interactionId
  nextAttemptAt := asUtc (dueTime arguments clock)
  createdAt := asUtc (arguments.createdAt.getD clock)

/-- Enqueuing on the stored outbox is enqueuing on the model, and gives the next id. -/
theorem Represents.enqueueOutbox (represents : store.Represents model)
    {arguments : OutboxArguments} {clock : DateTime} {outboxId : Nat}
    (enqueued : store.enqueueOutbox arguments clock = .ok (outboxId, after)) :
    outboxId = model.outbox.length + 1 ∧ ∃ next,
      model.enqueueOutbox (entryOf arguments clock) = .ok next ∧ after.Represents next := by
  unfold OutboxStore.enqueueOutbox at enqueued
  obtain ⟨nextText, nextWritten, rest⟩ := bind_eq_ok.mp enqueued
  obtain ⟨createdText, createdWritten, result⟩ := bind_eq_ok.mp rest
  obtain ⟨nextRange, rfl⟩ := serializeDatetime_ok nextWritten
  obtain ⟨createdRange, rfl⟩ := serializeDatetime_ok createdWritten
  split at result
  next refers =>
    obtain ⟨rfl, rfl⟩ := Prod.mk.inj (Except.ok.inj result)
    refine ⟨congrArg (· + 1) represents.last, { model with
      outbox := model.outbox ++ [model.outboxRow (entryOf arguments clock)] }, ?_, ?_⟩
    · apply SQLiteCodexStore.enqueueOutbox_of_references
      unfold SQLiteCodexStore.References
      rw [← represents.tables]
      exact refers
    · constructor
      · exact represents.tables
      · have inserted : store.insertedRow arguments (isoformat (asUtc (dueTime arguments clock)))
            (isoformat (asUtc (arguments.createdAt.getD clock))) =
              (model.outboxRow (entryOf arguments clock)).toText := by
          unfold insertedRow
          rw [represents.last]
          rfl
        change store.outbox.rows ++ [_] = _
        rw [inserted, represents.rows, List.map_append]
        rfl
      · change store.outbox.last + 1 = _
        rw [represents.last, List.length_append]
        rfl
      · intro item member
        rcases List.mem_append.mp member with old | new
        · exact represents.times item old
        · obtain rfl := List.mem_singleton.mp new
          exact ⟨nextRange, nofun, createdRange⟩
      · rw [List.map_append, represents.ids, List.length_append, ← List.range'_append_1]
        congr 2
        exact congrArg (fun id => [id]) (Nat.add_comm _ _)
  next => cases result

/-- An update by id rewrites one unsent row or none. -/
theorem update_cases (outboxId : Int) (change : OutboxText → OutboxText)
    (keepsId : ∀ row : OutboxText, (change row).id = row.id) :
    (rowcount (OutboxText.isUnsent outboxId) store.outbox.rows == 1) = false ∧
        store.outbox.update (OutboxText.isUnsent outboxId) change keepsId = store.outbox ∨
      (rowcount (OutboxText.isUnsent outboxId) store.outbox.rows == 1) = true ∧
        ∃ row ∈ store.outbox.rows, (row.id : Int) = outboxId ∧ row.sentAt = none := by
  have byKey : ∀ row, OutboxText.isUnsent outboxId row → (fun _ : OutboxText => true) row ∧
      OutboxText.id row = outboxId.toNat := by
    intro row unsent
    have same := beq_iff_eq.mp ((Bool.and_eq_true _ _).mp unsent).1
    exact ⟨rfl, by omega⟩
  by_cases one : rowcount (OutboxText.isUnsent outboxId) store.outbox.rows = 1
  · obtain ⟨row, member, unsent⟩ := (rowcount_eq_one_iff store.outbox.ids _ _ byKey).mp one
    obtain ⟨same, none⟩ := (Bool.and_eq_true _ _).mp unsent
    exact Or.inr ⟨beq_iff_eq.mpr one, row, member, beq_iff_eq.mp same, Option.isNone_iff_eq_none.mp
      none⟩
  · refine Or.inl ⟨beq_eq_false_iff_ne.mpr one, Sequenced.update_eq_self ?_⟩
    exact unselected_of_rowcount store.outbox.ids _ _ byKey one

/-- The update of a stored row is the update of its item. -/
theorem Represents.update (represents : store.Represents model) (outboxId : Nat)
    {change : OutboxText → OutboxText}
    {modelChange : NotificationOutboxItem → NotificationOutboxItem}
    {keepsId : ∀ row : OutboxText, (change row).id = row.id}
    (commutes : ∀ item, (modelChange item).toText = change item.toText)
    (inRange : ∀ item : NotificationOutboxItem, item.TimesInRange →
      (modelChange item).TimesInRange) :
    OutboxStore.Represents { store with
      outbox := store.outbox.update (OutboxText.isUnsent outboxId) change keepsId }
      (model.updateUnsent outboxId modelChange) := by
  have sameId : ∀ item : NotificationOutboxItem, (modelChange item).id = item.id := by
    intro item
    have text := congrArg OutboxText.id (commutes item)
    rw [keepsId] at text
    exact text
  constructor
  · exact represents.tables
  · change updateWhere _ change store.outbox.rows = List.map _ (updateWhere _ modelChange _)
    rw [represents.rows]
    unfold updateWhere
    rw [List.map_map, List.map_map]
    apply List.map_congr_left
    intro item _
    have selected : OutboxText.isUnsent outboxId item.toText =
        (item.id == outboxId && item.sentAt.isNone) := by
      unfold OutboxText.isUnsent NotificationOutboxItem.toText
      rw [Option.isNone_map]
      congr 1
      simp only [beq_eq_decide, Int.natCast_inj]
    simp only [Function.comp_apply, selected]
    split
    next => exact (commutes item).symm
    next => rfl
  · change store.outbox.last = (updateWhere _ modelChange model.outbox).length
    rw [updateWhere, List.length_map]
    exact represents.last
  · intro item member
    obtain ⟨old, present, rfl⟩ := mem_updateWhere.mp member
    split
    next => exact inRange old (represents.times old present)
    next => exact represents.times old present
  · change (updateWhere _ modelChange model.outbox).map _ =
      List.range' 1 (updateWhere _ modelChange model.outbox).length
    rw [map_updateWhere _ sameId, updateWhere, List.length_map]
    exact represents.ids

/-- A mark that was set, and a mark that was not. -/
theorem Represents.markOutboxSent (represents : store.Represents model) {outboxId : Int}
    {sentAt : Option DateTime} {clock : DateTime} {won : Bool}
    (marked : store.markOutboxSent outboxId sentAt clock = .ok (won, after)) :
    won = false ∧ after = store ∨ won = true ∧ ∃ item ∈ model.outbox,
      (item.id : Int) = outboxId ∧ item.sentAt = none ∧
        after.Represents (model.markOutboxSent item.id (asUtc (sentAt.getD clock))) := by
  unfold OutboxStore.markOutboxSent at marked
  obtain ⟨text, written, rest⟩ := bind_eq_ok.mp marked
  obtain ⟨integer, bound, result⟩ := bind_eq_ok.mp rest
  obtain ⟨inRange, rfl⟩ := serializeDatetime_ok written
  obtain rfl := sqliteInteger_ok bound
  obtain ⟨rfl, rfl⟩ := Prod.mk.inj (Except.ok.inj result)
  rcases update_cases integer _ (OutboxText.markSent_id _) with
    ⟨lost, same⟩ | ⟨won, row, member, named, unsent⟩
  · exact Or.inl ⟨lost, congrArg (OutboxStore.mk store.tables) same⟩
  · rw [represents.rows] at member
    obtain ⟨item, itemMem, rfl⟩ := List.mem_map.mp member
    refine Or.inr ⟨won, item, itemMem, named, Option.map_eq_none_iff.mp unsent, ?_⟩
    obtain rfl : integer = item.id := named.symm
    refine represents.update item.id (fun _ => rfl) fun other times => ?_
    exact ⟨times.nextAttemptAt, fun instant same => Option.some.inj same ▸ inRange, times.createdAt⟩

/-- Recording a failure reports an unsent row and reschedules it, or changes nothing. -/
theorem Represents.recordOutboxFailure (represents : store.Represents model) {outboxId : Int}
    {error : String} {nextAttemptAt : DateTime} {won : Bool}
    (recorded : store.recordOutboxFailure outboxId error nextAttemptAt = .ok (won, after)) :
    won = false ∧ after = store ∨ won = true ∧ ∃ item ∈ model.outbox,
      (item.id : Int) = outboxId ∧ item.sentAt = none ∧
        after.Represents (model.recordOutboxFailure item.id error (asUtc nextAttemptAt)) := by
  unfold OutboxStore.recordOutboxFailure at recorded
  obtain ⟨text, written, rest⟩ := bind_eq_ok.mp recorded
  obtain ⟨integer, bound, result⟩ := bind_eq_ok.mp rest
  obtain ⟨inRange, rfl⟩ := serializeDatetime_ok written
  obtain rfl := sqliteInteger_ok bound
  obtain ⟨rfl, rfl⟩ := Prod.mk.inj (Except.ok.inj result)
  rcases update_cases integer _ (OutboxText.reschedule_id _ error) with
    ⟨lost, same⟩ | ⟨won, row, member, named, unsent⟩
  · exact Or.inl ⟨lost, congrArg (OutboxStore.mk store.tables) same⟩
  · rw [represents.rows] at member
    obtain ⟨item, itemMem, rfl⟩ := List.mem_map.mp member
    refine Or.inr ⟨won, item, itemMem, named, Option.map_eq_none_iff.mp unsent, ?_⟩
    obtain rfl : integer = item.id := named.symm
    refine represents.update item.id (fun _ => rfl) fun other times => ?_
    exact ⟨inRange, times.sentAt, times.createdAt⟩

end OutboxStore

/-- A call on the outbox, or anything that writes the other tables. -/
inductive OutboxCall where
  | enqueueOutbox (arguments : OutboxArguments) (clock : DateTime)
  | recordOutboxFailure (outboxId : Int) (error : String) (nextAttemptAt : DateTime)
  | markOutboxSent (outboxId : Int) (sentAt : Option DateTime) (clock : DateTime)
  | elsewhere (tables : CodexTables)

/-- The times that a call writes. -/
def OutboxCall.times : OutboxCall → List DateTime
  | .enqueueOutbox arguments clock =>
      [OutboxStore.dueTime arguments clock, arguments.createdAt.getD clock]
  | .recordOutboxFailure _ _ nextAttemptAt => [nextAttemptAt]
  | .markOutboxSent _ sentAt clock => [sentAt.getD clock]
  | .elsewhere _ => []

/-- What the callers of the outbox were told that they did. -/
inductive OutboxWrite where
  | enqueued (outboxId : Int) (due : Instant)
  | rescheduled (outboxId : Int) (due : Instant)
  | sent (outboxId : Int)
  deriving DecidableEq, Repr

namespace OutboxWrite

def outboxId : OutboxWrite → Int
  | .enqueued outboxId _ | .rescheduled outboxId _ | .sent outboxId => outboxId

/-- The instant for which a row was scheduled. -/
def due? (outboxId : Int) : OutboxWrite → Option Instant
  | .enqueued written due | .rescheduled written due => if written = outboxId then some due else
      none
  | .sent _ => none

/-- What was written for another row says nothing about when this one is due. -/
theorem due?_of_ne {write : OutboxWrite} {outboxId : Int} (other : write.outboxId ≠ outboxId) :
    write.due? outboxId = none := by
  cases write with
  | enqueued written due | rescheduled written due => exact if_neg other
  | sent => rfl

end OutboxWrite

/-- The latest instant for which a row was scheduled. -/
def latestDue (log : List OutboxWrite) (outboxId : Int) : Option Instant :=
  (log.filterMap (OutboxWrite.due? outboxId)).getLast?

/-- The last write that names a row says when it is due. -/
theorem latestDue_concat {log : List OutboxWrite} {write : OutboxWrite} {outboxId : Int} :
    latestDue (log ++ [write]) outboxId = (write.due? outboxId).or (latestDue log outboxId) := by
  unfold latestDue
  rw [List.filterMap_append]
  cases scheduled : write.due? outboxId with
  | none =>
      rw [List.filterMap_cons_none scheduled, List.filterMap_nil, List.append_nil, Option.none_or]
  | some due =>
      rw [List.filterMap_cons_some scheduled, List.filterMap_nil, List.getLast?_concat,
        Option.some_or]

/-- The stored outbox, and what was done to it. -/
structure OutboxRun where
  store : OutboxStore
  log : List OutboxWrite

/-- The effect of a call; one that raises has none. -/
def OutboxRun.perform (run : OutboxRun) : OutboxCall → OutboxRun
  | .enqueueOutbox arguments clock =>
      match run.store.enqueueOutbox arguments clock with
      | .ok (outboxId, store) =>
          ⟨store, run.log ++ [.enqueued outboxId (asUtc (OutboxStore.dueTime arguments clock))]⟩
      | .error _ => run
  | .recordOutboxFailure outboxId error nextAttemptAt =>
      match run.store.recordOutboxFailure outboxId error nextAttemptAt with
      | .ok (true, store) => ⟨store, run.log ++ [.rescheduled outboxId (asUtc nextAttemptAt)]⟩
      | .ok (false, store) => { run with store }
      | .error _ => run
  | .markOutboxSent outboxId sentAt clock =>
      match run.store.markOutboxSent outboxId sentAt clock with
      | .ok (true, store) => ⟨store, run.log ++ [.sent outboxId]⟩
      | .ok (false, store) => { run with store }
      | .error _ => run
  | .elsewhere tables => { run with store := { run.store with tables } }

/-- The exception of a result. -/
def error? {α : Type} : Except PyError α → Option PyError
  | .ok _ => none
  | .error error => some error

/-- The exception of a call. -/
def OutboxRun.raised (run : OutboxRun) : OutboxCall → Option PyError
  | .enqueueOutbox arguments clock => error? (run.store.enqueueOutbox arguments clock)
  | .recordOutboxFailure outboxId error nextAttemptAt =>
      error? (run.store.recordOutboxFailure outboxId error nextAttemptAt)
  | .markOutboxSent outboxId sentAt clock =>
      error? (run.store.markOutboxSent outboxId sentAt clock)
  | .elsewhere _ => none

/-- The log says what the rows hold. -/
structure OutboxRun.Logged (run : OutboxRun) (model : SQLiteCodexStore) : Prop where
  represents : run.store.Represents model
  sent : ∀ item ∈ model.outbox, item.sentAt.isSome ↔ .sent item.id ∈ run.log
  due : ∀ item ∈ model.outbox, latestDue run.log item.id = some item.nextAttemptAt
  written : ∀ write ∈ run.log, write.outboxId ≤ model.outbox.length

namespace OutboxRun.Logged

variable {run : OutboxRun} {model next : SQLiteCodexStore} {store : OutboxStore}

/-- The id of an item is at most the number of items. -/
theorem id_le (logged : run.Logged model) {item : NotificationOutboxItem}
    (member : item ∈ model.outbox) : item.id ≤ model.outbox.length := by
  have listed : item.id ∈ List.range' 1 model.outbox.length :=
    logged.represents.ids ▸ List.mem_map_of_mem member
  have bounds := List.mem_range'_1.mp listed
  omega

/-- A row is determined by its id. -/
theorem unique (logged : run.Logged model) {first second : NotificationOutboxItem}
    (firstMem : first ∈ model.outbox) (secondMem : second ∈ model.outbox)
    (same : first.id = second.id) : first = second := by
  refine List.inj_on_of_nodup_map ?_ firstMem secondMem same
  rw [logged.represents.ids]
  exact List.nodup_range' ..

/-- Enqueuing an item keeps the log in step with the model. -/
theorem enqueue (logged : run.Logged model) {entry : SQLiteCodexStore.OutboxEntry}
    (enqueued : model.enqueueOutbox entry = .ok next) (represents : store.Represents next) :
    OutboxRun.Logged ⟨store, run.log ++
      [.enqueued (model.outbox.length + 1 : Nat) entry.nextAttemptAt]⟩ next := by
  obtain rfl := SQLiteCodexStore.enqueueOutbox_ok enqueued
  refine ⟨represents, ?_, ?_, ?_⟩
  · intro item member
    rw [List.mem_append, List.mem_singleton]
    rcases List.mem_append.mp member with old | new
    · rw [logged.sent item old]
      simp only [reduceCtorEq, or_false]
    · obtain rfl := List.mem_singleton.mp new
      refine iff_of_false nofun ?_
      rintro (marked | ⟨⟨⟩⟩)
      have bound := logged.written _ marked
      change ((model.outbox.length + 1 : Nat) : Int) ≤ _ at bound
      omega
  · intro item member
    rw [latestDue_concat]
    rcases List.mem_append.mp member with old | new
    · have bound := logged.id_le old
      rw [OutboxWrite.due?_of_ne, Option.none_or]
      · exact logged.due item old
      · change ((model.outbox.length + 1 : Nat) : Int) ≠ item.id
        omega
    · obtain rfl := List.mem_singleton.mp new
      have scheduled : (OutboxWrite.enqueued (model.outbox.length + 1 : Nat)
          entry.nextAttemptAt).due?
          (model.outboxRow entry).id = some entry.nextAttemptAt := if_pos rfl
      rw [scheduled, Option.some_or]
      rfl
  · intro write member
    rw [List.length_append]
    rcases List.mem_append.mp member with old | new
    · have bound := logged.written write old
      omega
    · obtain rfl := List.mem_singleton.mp new
      exact le_rfl

/-- The row that an update by id selects. -/
theorem selected_iff (logged : run.Logged model) {item other : NotificationOutboxItem}
    (member : item ∈ model.outbox) (unsent : item.sentAt = none)
    (otherMem : other ∈ model.outbox) :
    (other.id == item.id && other.sentAt.isNone) = true ↔ other = item := by
  constructor
  · intro selected
    exact logged.unique otherMem member (beq_iff_eq.mp ((Bool.and_eq_true _ _).mp selected).1)
  · rintro rfl
    rw [beq_self_eq_true, unsent]
    rfl

/-- Marking an item as sent keeps the log in step with the model. -/
theorem markSent (logged : run.Logged model) {item : NotificationOutboxItem} {sentAt : Instant}
    (member : item ∈ model.outbox) (unsent : item.sentAt = none)
    (represents : store.Represents (model.markOutboxSent item.id sentAt)) :
    OutboxRun.Logged ⟨store, run.log ++ [.sent item.id]⟩ (model.markOutboxSent item.id sentAt) := by
  have length : (model.markOutboxSent item.id sentAt).outbox.length = model.outbox.length :=
    List.length_map _
  refine ⟨represents, ?_, ?_, ?_⟩
  · intro other otherMem
    obtain ⟨old, present, rfl⟩ := mem_updateWhere.mp otherMem
    rw [List.mem_append, List.mem_singleton]
    split
    next selected =>
      obtain rfl := (logged.selected_iff member unsent present).mp selected
      exact iff_of_true rfl (Or.inr rfl)
    next unselected =>
      have different : (OutboxWrite.sent old.id : OutboxWrite) ≠ .sent item.id := by
        intro same
        refine unselected ((logged.selected_iff member unsent present).mpr ?_)
        exact logged.unique present member (Int.natCast_inj.mp (OutboxWrite.sent.inj same))
      rw [logged.sent old present]
      simp only [different, or_false]
  · intro other otherMem
    obtain ⟨old, present, rfl⟩ := mem_updateWhere.mp otherMem
    rw [latestDue_concat]
    have kept := logged.due old present
    split
    next => exact kept
    next => exact kept
  · intro write writeMem
    rw [length]
    rcases List.mem_append.mp writeMem with old | new
    · exact logged.written write old
    · obtain rfl := List.mem_singleton.mp new
      exact Int.ofNat_le.mpr (logged.id_le member)

/-- Rescheduling an item keeps the log in step with the model. -/
theorem reschedule (logged : run.Logged model) {item : NotificationOutboxItem} {error : String}
    {nextAttemptAt : Instant} (member : item ∈ model.outbox) (unsent : item.sentAt = none)
    (represents : store.Represents (model.recordOutboxFailure item.id error nextAttemptAt)) :
    OutboxRun.Logged ⟨store, run.log ++ [.rescheduled item.id nextAttemptAt]⟩
      (model.recordOutboxFailure item.id error nextAttemptAt) := by
  have length : (model.recordOutboxFailure item.id error nextAttemptAt).outbox.length =
      model.outbox.length := List.length_map _
  refine ⟨represents, ?_, ?_, ?_⟩
  · intro other otherMem
    obtain ⟨old, present, rfl⟩ := mem_updateWhere.mp otherMem
    have kept := logged.sent old present
    rw [List.mem_append, List.mem_singleton]
    simp only [reduceCtorEq, or_false]
    split
    next => exact kept
    next => exact kept
  · intro other otherMem
    obtain ⟨old, present, rfl⟩ := mem_updateWhere.mp otherMem
    rw [latestDue_concat]
    split
    next selected =>
      obtain rfl := (logged.selected_iff member unsent present).mp selected
      have scheduled : (OutboxWrite.rescheduled old.id nextAttemptAt).due? old.id =
          some nextAttemptAt := if_pos rfl
      change ((OutboxWrite.rescheduled old.id nextAttemptAt).due? old.id).or _ = _
      rw [scheduled]
      rfl
    next unselected =>
      rw [OutboxWrite.due?_of_ne, Option.none_or]
      · exact logged.due old present
      · intro same
        refine unselected ((logged.selected_iff member unsent present).mpr ?_)
        exact logged.unique present member (Int.natCast_inj.mp same.symm)
  · intro write writeMem
    rw [length]
    rcases List.mem_append.mp writeMem with old | new
    · exact logged.written write old
    · obtain rfl := List.mem_singleton.mp new
      exact Int.ofNat_le.mpr (logged.id_le member)

end OutboxRun.Logged

section Runs

variable {run : OutboxRun} {model : SQLiteCodexStore}

/-- Every call keeps the log true of the rows. -/
theorem OutboxRun.Logged.perform (logged : run.Logged model) (call : OutboxCall) :
    ∃ next, (run.perform call).Logged next := by
  cases call with
  | enqueueOutbox arguments clock =>
      unfold OutboxRun.perform
      dsimp only
      split
      next outboxId store enqueued =>
        obtain ⟨rfl, next, inserted, represents⟩ := logged.represents.enqueueOutbox enqueued
        exact ⟨next, logged.enqueue inserted represents⟩
      next => exact ⟨model, logged⟩
  | recordOutboxFailure outboxId error nextAttemptAt =>
      unfold OutboxRun.perform
      dsimp only
      split
      next store recorded =>
        rcases logged.represents.recordOutboxFailure recorded with
          ⟨lost, _⟩ | ⟨_, item, member, rfl, unsent, represents⟩
        · cases lost
        · exact ⟨_, logged.reschedule member unsent represents⟩
      next store recorded =>
        rcases logged.represents.recordOutboxFailure recorded with ⟨_, rfl⟩ | ⟨won, _⟩
        · exact ⟨model, logged⟩
        · cases won
      next => exact ⟨model, logged⟩
  | markOutboxSent outboxId sentAt clock =>
      unfold OutboxRun.perform
      dsimp only
      split
      next store marked =>
        rcases logged.represents.markOutboxSent marked with
          ⟨lost, _⟩ | ⟨_, item, member, rfl, unsent, represents⟩
        · cases lost
        · exact ⟨_, logged.markSent member unsent represents⟩
      next store marked =>
        rcases logged.represents.markOutboxSent marked with ⟨_, rfl⟩ | ⟨won, _⟩
        · exact ⟨model, logged⟩
        · cases won
      next => exact ⟨model, logged⟩
  | elsewhere tables =>
      obtain ⟨⟨_, rows, last, times, ids⟩, sent, due, written⟩ := logged
      exact ⟨{ model with tables }, ⟨rfl, rows, last, times, ids⟩, sent, due, written⟩

/-- The stored outbox holds this row. -/
def OutboxStore.Holds (store : OutboxStore) (item : NotificationOutboxItem) : Prop :=
  ∃ row ∈ store.outbox.rows, outboxFromRow row = .ok item

instance : Std.Total SQLiteCodexStore.DueBefore where
  total first second := by
    unfold SQLiteCodexStore.DueBefore
    rcases lt_trichotomy first.nextAttemptAt second.nextAttemptAt with less | same | greater
    · exact Or.inl (Or.inl less)
    · rcases Nat.le_total first.id second.id with le | ge
      · exact Or.inl (Or.inr ⟨same, le⟩)
      · exact Or.inr (Or.inr ⟨same.symm, ge⟩)
    · exact Or.inr (Or.inl greater)

instance : IsTrans NotificationOutboxItem SQLiteCodexStore.DueBefore where
  trans first second third := by
    unfold SQLiteCodexStore.DueBefore
    rintro (less | ⟨same, le⟩) (later | ⟨equal, before⟩)
    · exact Or.inl (less.trans later)
    · exact Or.inl (equal ▸ less)
    · exact Or.inl (same ▸ later)
    · exact Or.inr ⟨same.trans equal, le.trans before⟩

/-- The rows that are due: ordered, each once, and exactly the unsent ones whose latest scheduled
instant is not after now. -/
structure OutboxRun.IsDue (run : OutboxRun) (now : Instant) (due : List NotificationOutboxItem) :
    Prop where
  ordered : due.Pairwise SQLiteCodexStore.DueBefore
  nodup : (due.map NotificationOutboxItem.id).Nodup
  exactly : ∀ item, item ∈ due ↔ run.store.Holds item ∧ .sent item.id ∉ run.log ∧
    latestDue run.log item.id = some item.nextAttemptAt ∧ item.nextAttemptAt ≤ now

end Runs

section Scenarios

end Scenarios

end LarkBot
