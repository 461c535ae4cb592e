import LarkBot.Codex.Orchestration.Interaction
import LarkBot.Foundation.Table
import LarkBot.Foundation.Upgrade

/-! # The schema and its migrations

`initialize_schema` brings a database file to the current version: it looks at `user_version`, and
in one immediate transaction executes the statements of every version that is missing. A statement
that defines or changes a table is executed on the tables that the file has, and fails as the
database does.
-/

namespace LarkBot

open Foundation

/-- A value in a column. -/
inductive Cell where
  | null
  | int (value : Int)
  | text (value : String)
  deriving DecidableEq, Repr

/-- A column of a table. `unique` stands for `UNIQUE` and for `PRIMARY KEY`, and a column that
refers to a table refers to its ids. -/
structure Column where
  name : String
  notNull : Bool
  unique : Bool
  default : Cell
  refersTo : Option String
  deriving DecidableEq, Repr

namespace Column

def plain (name : String) : Column := ⟨name, false, false, .null, none⟩

def required (name : String) : Column := { plain name with notNull := true }

def key (name : String) : Column := { plain name with unique := true }

def requiredOr (name : String) (default : Cell) : Column := { required name with default }

/-- `REFERENCES table(id)`. -/
def references (column : Column) (table : String) : Column :=
  { column with refersTo := some table }

end Column

structure SchemaTable where
  columns : List Column
  rows : List (List Cell)
  deriving DecidableEq, Repr

/-- An index on columns of a table; a partial one holds the rows with a text in a column. -/
structure SchemaIndex where
  name : String
  table : String
  columns : List String
  unique : Bool
  scope : Option (String × String)
  deriving DecidableEq, Repr

/-- A database file: its tables under their names, its indexes and `user_version`. -/
structure SchemaFile where
  tables : List (String × SchemaTable)
  indexes : List SchemaIndex
  version : Nat
  deriving DecidableEq, Repr

/-- The statements of the migrations. -/
inductive SchemaStatement where
  | createTable (name : String) (columns : List Column) (ifNotExists : Bool)
  | createIndex (index : SchemaIndex) (ifNotExists : Bool)
  /-- `INSERT INTO … SELECT … FROM …`, with the columns that pass through `json_quote`. -/
  | insertSelect (target source : String) (columns quoted : List String)
  | dropTable (name : String)
  | renameTable (name newName : String)
  | addColumn (table : String) (column : Column)
  | setUserVersion (version : Nat)
  deriving DecidableEq, Repr

/-- `json_quote` of the database, which writes a text as `json.dumps` does. -/
def jsonQuote : Cell → Cell
  | .null => .text "null"
  | .int value => .text (canonicalRequestId (.int value))
  | .text value => .text (canonicalRequestId (.str value))

namespace SchemaTable

/-- The value of a row in a column. -/
def cell (table : SchemaTable) (row : List Cell) (column : String) : Cell :=
  (((table.columns.map Column.name).zip row).lookup column).getD .null

/-- Two rows that a unique key tells apart; `NULL` differs from everything. -/
def Apart (first second : Cell) : Prop := first = .null ∨ second = .null ∨ first ≠ second

instance : DecidableRel Apart := fun _ _ => inferInstanceAs (Decidable (_ ∨ _ ∨ _))

/-- What the declared columns demand of the rows. -/
def Admits (table : SchemaTable) : Prop :=
  ∀ column ∈ table.columns,
    (column.notNull → ∀ row ∈ table.rows, table.cell row column.name ≠ .null) ∧
    (column.unique → table.rows.Pairwise fun first second =>
      Apart (table.cell first column.name) (table.cell second column.name))

instance (table : SchemaTable) : Decidable table.Admits := by
  unfold Admits
  infer_instance

/-- The rows in the scope of an index. -/
def inScope (table : SchemaTable) (scope : Option (String × String)) (row : List Cell) : Bool :=
  match scope with
  | none => true
  | some (column, value) => table.cell row column == .text value

/-- What a unique index demands of the rows. -/
def AdmitsIndex (table : SchemaTable) (index : SchemaIndex) : Prop :=
  index.unique → (table.rows.filter (table.inScope index.scope)).Pairwise fun first second =>
    ∃ column ∈ index.columns, Apart (table.cell first column) (table.cell second column)

instance (table : SchemaTable) (index : SchemaIndex) : Decidable (table.AdmitsIndex index) := by
  unfold AdmitsIndex
  infer_instance

end SchemaTable

namespace SchemaFile

def table? (file : SchemaFile) (name : String) : Option SchemaTable := file.tables.lookup name

/-- The database refuses a statement. -/
def refuse (message : String) : Except PyError SchemaFile :=
  .error ⟨.other "OperationalError", message⟩

/-- The table under a name, changed. -/
def setTable (file : SchemaFile) (name : String) (table : SchemaTable) : SchemaFile :=
  { file with tables := file.tables.map fun entry =>
      if entry.1 = name then (name, table) else entry }

/-- The rows of other tables that refer to a row of this one. -/
def Referenced (file : SchemaFile) (name : String) : Prop :=
  ∃ entry ∈ file.tables, entry.1 ≠ name ∧ ∃ column ∈ entry.2.columns,
    column.refersTo = some name ∧ ∃ row ∈ entry.2.rows, entry.2.cell row column.name ≠ .null

instance (file : SchemaFile) (name : String) : Decidable (file.Referenced name) := by
  unfold Referenced
  infer_instance

/-- A statement, with `PRAGMA foreign_keys` on or off. -/
def execute (foreignKeys : Bool) (file : SchemaFile) : SchemaStatement → Except PyError SchemaFile
  | .createTable name columns ifNotExists =>
      if (file.table? name).isSome then
        if ifNotExists then .ok file else refuse ("table " ++ name ++ " already exists")
      else .ok { file with tables := file.tables ++ [(name, ⟨columns, []⟩)] }
  | .createIndex index ifNotExists =>
      if file.indexes.any fun other => other.name == index.name then
        if ifNotExists then .ok file else refuse ("index " ++ index.name ++ " already exists")
      else match file.table? index.table with
        | none => refuse ("no such table: " ++ index.table)
        | some table =>
            if ∀ column ∈ index.columns, column ∈ table.columns.map Column.name then
              if table.AdmitsIndex index then .ok { file with indexes := file.indexes ++ [index] }
              else .error ⟨.integrityError, "UNIQUE constraint failed"⟩
            else refuse "no such column"
  | .insertSelect target source columns quoted =>
      match file.table? target, file.table? source with
      | some targetTable, some sourceTable =>
          if ∀ column ∈ columns, column ∈ targetTable.columns.map Column.name ∧
              column ∈ sourceTable.columns.map Column.name then
            let select := fun row : List Cell => targetTable.columns.map fun column =>
              if column.name ∈ columns then
                if column.name ∈ quoted then jsonQuote (sourceTable.cell row column.name)
                else sourceTable.cell row column.name
              else column.default
            let filled := { targetTable with
              rows := targetTable.rows ++ sourceTable.rows.map select }
            if filled.Admits then .ok (file.setTable target filled)
            else .error ⟨.integrityError, "constraint failed"⟩
          else refuse "no such column"
      | _, _ => refuse "no such table"
  | .dropTable name =>
      if (file.table? name).isNone then refuse ("no such table: " ++ name)
      else if foreignKeys ∧ file.Referenced name then
        .error ⟨.integrityError, "FOREIGN KEY constraint failed"⟩
      else .ok { file with
        tables := file.tables.filter fun entry => entry.1 ≠ name
        indexes := file.indexes.filter fun index => index.table ≠ name }
  | .renameTable name newName =>
      if (file.table? newName).isSome then refuse ("table " ++ newName ++ " already exists")
      else if (file.table? name).isNone then refuse ("no such table: " ++ name)
      else .ok { file with
        tables := file.tables.map fun entry =>
          (if entry.1 = name then newName else entry.1, { entry.2 with
            columns := entry.2.columns.map fun column =>
              if column.refersTo = some name then column.references newName else column })
        indexes := file.indexes.map fun index =>
          if index.table = name then { index with table := newName } else index }
  | .addColumn name column =>
      match file.table? name with
      | none => refuse ("no such table: " ++ name)
      | some table =>
          if column.name ∈ table.columns.map Column.name then
            refuse ("duplicate column name: " ++ column.name)
          else .ok (file.setTable name ⟨table.columns ++ [column],
            table.rows.map fun row => row ++ [column.default]⟩)
  | .setUserVersion version => .ok { file with version }

end SchemaFile

section Migrations

open Column

def sessionColumns : List Column :=
  [key "id", plain "thread_id", plain "turn_id", required "name", required "cwd", plain "model",
    required "sandbox", required "status", requiredOr "summary" (.text ""), required "created_at",
    required "updated_at"]

/-- The request ids were unique in the first version. -/
def uniqueRequestId : Column := { required "request_id" with unique := true }

def interactionColumns (requestId : Column) : List Column :=
  [key "id", (required "session_id").references "codex_sessions", requestId, required "kind",
    required "status", plain "lark_message_id", requiredOr "payload_summary" (.text ""),
    required "requested_at", plain "resolved_at", required "expires_at", plain "actor_id",
    plain "decision"]

def eventColumns : List Column := [key "event_id", required "received_at"]

def outboxColumns : List Column :=
  [key "id", (plain "session_id").references "codex_sessions",
    (plain "interaction_id").references "codex_interactions", required "notification_type",
    required "payload_summary", requiredOr "attempt_count" (.int 0), required "next_attempt_at",
    plain "sent_at", plain "last_error", required "created_at"]

def auditColumns : List Column :=
  [key "id", (plain "session_id").references "codex_sessions",
    (plain "interaction_id").references "codex_interactions", required "event_type",
    plain "actor_id", requiredOr "detail_summary" (.text ""), required "created_at"]

def sessionsStatusIndex : SchemaIndex :=
  ⟨"idx_codex_sessions_status", "codex_sessions", ["status"], false, none⟩

def interactionsStatusIndex : SchemaIndex :=
  ⟨"idx_codex_interactions_status", "codex_interactions", ["status"], false, none⟩

def outboxDueIndex : SchemaIndex :=
  ⟨"idx_notification_outbox_due", "notification_outbox", ["sent_at", "next_attempt_at"], false,
    none⟩

def auditCreatedIndex : SchemaIndex :=
  ⟨"idx_codex_audit_session_created", "codex_audit", ["session_id", "created_at", "id"], false,
    none⟩

def pendingRequestIndex : SchemaIndex :=
  ⟨"idx_codex_interactions_pending_request", "codex_interactions", ["request_id"], true,
    some ("status", "pending")⟩

def schemaVersion : Nat := 3

/-- `MIGRATIONS`. -/
def migrations : Nat → List SchemaStatement
  | 1 =>
      [.createTable "codex_sessions" sessionColumns true,
        .createTable "codex_interactions"
          (interactionColumns uniqueRequestId) true,
        .createTable "codex_event_dedupe" eventColumns true,
        .createTable "notification_outbox" outboxColumns true,
        .createTable "codex_audit" auditColumns true,
        .createIndex sessionsStatusIndex true, .createIndex interactionsStatusIndex true,
        .createIndex outboxDueIndex true, .createIndex auditCreatedIndex true]
  | 2 =>
      [.createTable "codex_interactions_v2" (interactionColumns (required "request_id")) false,
        .insertSelect "codex_interactions_v2" "codex_interactions"
          ["id", "session_id", "request_id", "kind", "status", "lark_message_id", "payload_summary",
            "requested_at", "resolved_at", "expires_at", "actor_id", "decision"] ["request_id"],
        .dropTable "codex_interactions",
        .renameTable "codex_interactions_v2" "codex_interactions",
        .createIndex interactionsStatusIndex false, .createIndex pendingRequestIndex false]
  | 3 => [.addColumn "notification_outbox" (plain "agent"),
      .addColumn "notification_outbox" (plain "session_name")]
  | _ => []

/-- The statements from a version on, each version with its number. -/
def missingStatements (version : Nat) : List SchemaStatement :=
  (List.range' (version + 1) (schemaVersion - version)).flatMap fun target =>
    migrations target ++ [.setUserVersion target]

/-- `initialize_schema`; the transaction runs with the foreign keys off. -/
def initializeSchema : Upgrade SchemaFile SchemaStatement PyError where
  check file :=
    if file.version > schemaVersion then
      .error (runtimeError ("unsupported Codex schema version " ++ toString file.version ++
        "; maximum is " ++ toString schemaVersion))
    else .ok (file.version == schemaVersion)
  plan file := missingStatements file.version
  execute statement file := file.execute false statement

end Migrations

/-! ## The files of each version -/

/-- The rows of the five tables. -/
structure SchemaRows where
  sessions : List (List Cell)
  interactions : List (List Cell)
  events : List (List Cell)
  outbox : List (List Cell)
  audit : List (List Cell)
  deriving DecidableEq, Repr

/-- The file of a version, as the migrations up to it define the tables. -/
def schemaAt (rows : SchemaRows) : Nat → SchemaFile
  | 0 => ⟨[], [], 0⟩
  | 1 => {
      tables := [("codex_sessions", ⟨sessionColumns, rows.sessions⟩),
        ("codex_interactions", ⟨interactionColumns uniqueRequestId, rows.interactions⟩),
        ("codex_event_dedupe", ⟨eventColumns, rows.events⟩),
        ("notification_outbox", ⟨outboxColumns, rows.outbox⟩),
        ("codex_audit", ⟨auditColumns, rows.audit⟩)]
      indexes := [sessionsStatusIndex, interactionsStatusIndex, outboxDueIndex, auditCreatedIndex]
      version := 1 }
  | version => {
      tables := [("codex_sessions", ⟨sessionColumns, rows.sessions⟩),
        ("codex_event_dedupe", ⟨eventColumns, rows.events⟩),
        ("notification_outbox", ⟨if version = 2 then outboxColumns
          else outboxColumns ++ [Column.plain "agent", Column.plain "session_name"], rows.outbox⟩),
        ("codex_audit", ⟨auditColumns, rows.audit⟩),
        ("codex_interactions", ⟨interactionColumns (Column.required "request_id"),
          rows.interactions⟩)]
      indexes := [sessionsStatusIndex, outboxDueIndex, auditCreatedIndex, interactionsStatusIndex,
        pendingRequestIndex]
      version := version }

/-- The request id, the third column, as a JSON text. -/
def quoteRequestId (row : List Cell) : List Cell := row.modify 2 jsonQuote

/-- The rows that the migrations from a version on make. A file without tables has no rows. -/
def SchemaRows.upgraded (rows : SchemaRows) : Nat → SchemaRows
  | 0 => ⟨[], [], [], [], []⟩
  | 1 => { rows with
      interactions := rows.interactions.map quoteRequestId
      outbox := rows.outbox.map fun row => row ++ [.null, .null] }
  | 2 => { rows with outbox := rows.outbox.map fun row => row ++ [.null, .null] }
  | _ => rows

example : initializeSchema.executeAll (missingStatements 0) (schemaAt ⟨[], [], [], [], []⟩ 0) =
    .ok (schemaAt ⟨[], [], [], [], []⟩ 3) := by rfl

end LarkBot
