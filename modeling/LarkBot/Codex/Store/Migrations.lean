import LarkBot.Codex.Store.SharedFile

/-! # Upgrading the schema

Stores of several processes may open a file of an earlier version at the same time. Whatever they do
when, and wherever they are struck, the file has the tables of its own version or those of the
current one, with every row in its place (`LarkBot.schema_upgraded`): nobody sees a table that is
half migrated, and no statement fails. The request ids that were plain texts become JSON texts, and
those that differed still differ. The tables that another store keeps in the file are left alone.
-/

namespace LarkBot

open Foundation

/-- Every row has a cell for each of its columns. -/
def SchemaTable.Full (table : SchemaTable) : Prop :=
  ∀ row ∈ table.rows, row.length = table.columns.length

/-- A row of the table has this id. -/
def SchemaFile.HasId (file : SchemaFile) (name : String) (id : Cell) : Prop :=
  ∃ table, (name, table) ∈ file.tables ∧ ∃ row ∈ table.rows, table.cell row "id" = id

/-- The rows of a file obey the columns, refer to rows that are there, and have texts as request
ids. -/
structure SchemaFile.Consistent (file : SchemaFile) : Prop where
  full : ∀ name table, (name, table) ∈ file.tables → table.Full
  admits : ∀ name table, (name, table) ∈ file.tables → table.Admits
  refers : ∀ name table, (name, table) ∈ file.tables → ∀ column ∈ table.columns, ∀ parent,
    column.refersTo = some parent → ∀ row ∈ table.rows, table.cell row column.name ≠ .null →
      file.HasId parent (table.cell row column.name)
  texts : ∀ table, ("codex_interactions", table) ∈ file.tables → ∀ row ∈ table.rows,
    ∃ text, table.cell row "request_id" = .text text

/-- A text. -/
def Cell.isText : Cell → Bool
  | .text _ => true
  | _ => false

/-- Consistency, as a check of the tables. -/
theorem SchemaFile.consistent_of_check {file : SchemaFile}
    (checked : ∀ entry ∈ file.tables, (∀ row ∈ entry.2.rows,
        row.length = entry.2.columns.length) ∧ entry.2.Admits ∧
      (∀ column ∈ entry.2.columns, ∀ parent ∈ column.refersTo, ∀ row ∈ entry.2.rows,
        entry.2.cell row column.name ≠ .null → ∃ other ∈ file.tables, other.1 = parent ∧
          ∃ there ∈ other.2.rows, other.2.cell there "id" = entry.2.cell row column.name) ∧
      (entry.1 = "codex_interactions" → ∀ row ∈ entry.2.rows,
        (entry.2.cell row "request_id").isText)) : file.Consistent where
  full := fun name table stored => (checked (name, table) stored).1
  admits := fun name table stored => (checked (name, table) stored).2.1
  refers := by
    intro name table stored column listed parent refers row member filled
    obtain ⟨⟨_, other⟩, among, rfl, found⟩ :=
      (checked (name, table) stored).2.2.1 column listed parent refers row member filled
    exact ⟨other, among, found⟩
  texts := by
    intro table stored row member
    have text := (checked _ stored).2.2.2 rfl row member
    cases is : table.cell row "request_id" with
    | text value => exact ⟨value, rfl⟩
    | null =>
        rw [is] at text
        cases text
    | int =>
        rw [is] at text
        cases text

/-- An empty file with the tables of the last version is consistent. -/
theorem consistent_empty : (schemaAt ⟨[], [], [], [], []⟩ schemaVersion).Consistent :=
  SchemaFile.consistent_of_check (by decide)

/-! ## Rows that are carried over -/

/-- A table whose rows are those of an earlier one, changed: a column is carried over with its
cells, or demands little. -/
structure SchemaTable.Carried (old new : SchemaTable) (change : List Cell → List Cell) : Prop where
  rows : new.rows = old.rows.map change
  full : ∀ row ∈ old.rows, (change row).length = new.columns.length
  cells : ∀ column ∈ new.columns,
    (column ∈ old.columns ∧ ∀ row ∈ old.rows,
      new.cell (change row) column.name = old.cell row column.name) ∨
    (column.unique = false ∧ column.refersTo = none ∧ (column.notNull → ∀ row ∈ old.rows,
      new.cell (change row) column.name ≠ .null))
  ids : ∀ row ∈ old.rows, new.cell (change row) "id" = old.cell row "id"

namespace SchemaTable

variable {old new : SchemaTable} {change : List Cell → List Cell}

/-- A table is carried over by leaving its rows. -/
theorem carried_self (full : old.Full) : old.Carried old id where
  rows := (List.map_id _).symm
  full := full
  cells := fun _ stored => Or.inl ⟨stored, fun _ _ => rfl⟩
  ids := fun _ _ => rfl

/-- The rows that are carried over are full. -/
theorem Carried.full_new (carried : old.Carried new change) : new.Full := by
  intro row member
  rw [carried.rows] at member
  obtain ⟨earlier, present, rfl⟩ := List.mem_map.mp member
  exact carried.full earlier present

/-- The constraints that the rows met they still meet when they are carried over. -/
theorem Carried.admits (carried : old.Carried new change) (admits : old.Admits) : new.Admits := by
  intro column stored
  rw [carried.rows]
  rcases carried.cells column stored with ⟨kept, cells⟩ | ⟨free, _, filled⟩
  · obtain ⟨notNull, unique⟩ := admits column kept
    constructor
    · intro required row member
      obtain ⟨earlier, present, rfl⟩ := List.mem_map.mp member
      rw [cells earlier present]
      exact notNull required earlier present
    · intro keyed
      refine List.pairwise_map.mpr ((unique keyed).imp_of_mem ?_)
      intro one two oneMem twoMem apart
      rw [cells one oneMem, cells two twoMem]
      exact apart
  · constructor
    · intro required row member
      obtain ⟨earlier, present, rfl⟩ := List.mem_map.mp member
      exact filled required earlier present
    · intro keyed
      rw [free] at keyed
      cases keyed

end SchemaTable

/-- A file whose tables are all carried over stays consistent. -/
theorem SchemaFile.Consistent.carried {file next : SchemaFile} (consistent : file.Consistent)
    (forward : ∀ name old, (name, old) ∈ file.tables → ∃ new change,
      (name, new) ∈ next.tables ∧ SchemaTable.Carried old new change)
    (backward : ∀ name new, (name, new) ∈ next.tables → ∃ old change,
      (name, old) ∈ file.tables ∧ SchemaTable.Carried old new change)
    (texts : ∀ table, ("codex_interactions", table) ∈ next.tables → ∀ row ∈ table.rows,
      ∃ text, table.cell row "request_id" = .text text) : next.Consistent where
  full := by
    intro name new stored
    obtain ⟨old, change, _, carried⟩ := backward name new stored
    exact carried.full_new
  admits := by
    intro name new stored
    obtain ⟨old, change, earlier, carried⟩ := backward name new stored
    exact carried.admits (consistent.admits name old earlier)
  refers := by
    intro name new stored column listed parent refers row member filled
    obtain ⟨old, change, earlier, carried⟩ := backward name new stored
    rw [carried.rows] at member
    obtain ⟨before, present, rfl⟩ := List.mem_map.mp member
    rcases carried.cells column listed with ⟨kept, cells⟩ | ⟨_, none, _⟩
    · rw [cells before present] at filled ⊢
      obtain ⟨table, there, other, among, same⟩ :=
        consistent.refers name old earlier column kept parent refers before present filled
      obtain ⟨after, changed, here, carries⟩ := forward parent table there
      refine ⟨after, here, changed other, ?_, (carries.ids other among).trans same⟩
      rw [carries.rows]
      exact List.mem_map_of_mem among
    · rw [refers] at none
      cases none
  texts := texts

/-- A file in which one table is carried over and the others are kept. -/
theorem SchemaFile.Consistent.replace {file next : SchemaFile} (consistent : file.Consistent)
    {name : String} {old new : SchemaTable} {change : List Cell → List Cell}
    (there : (name, old) ∈ file.tables) (carried : SchemaTable.Carried old new change)
    (alone : ∀ other, (name, other) ∈ file.tables → other = old)
    (tables : ∀ other table, (other, table) ∈ next.tables ↔
      other = name ∧ table = new ∨ other ≠ name ∧ (other, table) ∈ file.tables)
    (texts : name = "codex_interactions" → ∀ row ∈ new.rows,
      ∃ text, new.cell row "request_id" = .text text) : next.Consistent := by
  refine consistent.carried ?_ ?_ ?_
  · intro other table stored
    by_cases same : other = name
    · rw [same] at stored ⊢
      rw [alone table stored]
      exact ⟨new, change, (tables name new).mpr (Or.inl ⟨rfl, rfl⟩), carried⟩
    · exact ⟨table, id, (tables other table).mpr (Or.inr ⟨same, stored⟩),
        SchemaTable.carried_self (consistent.full other table stored)⟩
  · intro other table stored
    rcases (tables other table).mp stored with ⟨rfl, rfl⟩ | ⟨_, kept⟩
    · exact ⟨old, change, there, carried⟩
    · exact ⟨table, id, kept, SchemaTable.carried_self (consistent.full other table kept)⟩
  · intro table stored row member
    rcases (tables _ table).mp stored with ⟨same, rfl⟩ | ⟨_, kept⟩
    · exact texts same.symm row member
    · exact consistent.texts table kept row member

/-! ## The third migration -/

/-- The outbox with its two new columns. -/
def extendedOutbox (rows : SchemaRows) : SchemaTable :=
  ⟨outboxColumns ++ [Column.plain "agent", Column.plain "session_name"],
    rows.outbox.map fun row => row ++ [.null, .null]⟩

/-- A cell in a column that was there before the row grew. -/
theorem SchemaTable.cell_append {columns added : List Column} {row cells : List Cell}
    (full : row.length = columns.length) {column : String}
    (stored : column ∈ columns.map Column.name) :
    (⟨columns ++ added, []⟩ : SchemaTable).cell (row ++ cells) column =
      (⟨columns, []⟩ : SchemaTable).cell row column := by
  unfold SchemaTable.cell
  dsimp only
  rw [List.map_append, List.zip_append (by rw [List.length_map, full]), List.lookup_append]
  have found : ((List.zip (columns.map Column.name) row).lookup column).isSome := by
    have names : (List.zip (columns.map Column.name) row).map Prod.fst = columns.map Column.name :=
      List.map_fst_zip (Nat.le_of_eq (by rw [List.length_map, full]))
    rw [← names] at stored
    obtain ⟨entry, listed, rfl⟩ := List.mem_map.mp stored
    exact List.lookup_isSome_iff.mpr ⟨entry, listed, beq_self_eq_true _⟩
  rw [Option.or_of_isSome found]

/-- The rows of the outbox are carried over with two more columns, which are null. -/
theorem outbox_carried {rows : SchemaRows} (full : (⟨outboxColumns, rows.outbox⟩ :
    SchemaTable).Full) : SchemaTable.Carried ⟨outboxColumns, rows.outbox⟩ (extendedOutbox rows)
      fun row => row ++ [.null, .null] where
  rows := rfl
  full := by
    intro row member
    rw [List.length_append, full row member]
    rfl
  cells := by
    intro column stored
    rcases List.mem_append.mp stored with kept | added
    · refine Or.inl ⟨kept, fun row member => ?_⟩
      exact SchemaTable.cell_append (full row member) (List.mem_map_of_mem kept)
    · apply Or.inr
      simp only [List.mem_cons, List.not_mem_nil, or_false] at added
      rcases added with rfl | rfl
      all_goals exact ⟨rfl, rfl, fun impossible => by cases impossible⟩
  ids := by
    intro row member
    have named : "id" ∈ outboxColumns.map Column.name := by decide
    exact SchemaTable.cell_append (full row member) named

/-- The migration from version two extends the outbox. -/
theorem executeAll_two (rows : SchemaRows) :
    initializeSchema.executeAll (missingStatements 2) (schemaAt rows 2) =
      .ok (schemaAt (rows.upgraded 2) 3) := by
  have added : initializeSchema.executeAll (missingStatements 2) (schemaAt rows 2) =
      .ok (schemaAt { rows with
        outbox := (rows.outbox.map fun row => row ++ [.null]).map fun row => row ++ [.null] } 3) :=
    rfl
  rw [added, List.map_map]
  simp only [SchemaRows.upgraded, Function.comp_def, List.append_assoc, List.singleton_append]

/-! ## The second migration -/

/-- The interactions as the first version has them. -/
def firstInteractions (rows : SchemaRows) : SchemaTable :=
  ⟨interactionColumns uniqueRequestId, rows.interactions⟩

/-- The interactions as the second version has them. -/
def requotedInteractions (rows : SchemaRows) : SchemaTable :=
  ⟨interactionColumns (Column.required "request_id"), rows.interactions.map quoteRequestId⟩

/-- A full row of an interaction. -/
theorem eq_of_full {row : List Cell} (full : row.length = 12) :
    ∃ id sessionId requestId kind status messageId summary requestedAt resolvedAt expiresAt actorId
      decision : Cell, row = [id, sessionId, requestId, kind, status, messageId, summary,
        requestedAt, resolvedAt, expiresAt, actorId, decision] :=
  match row, full with
  | [_, _, _, _, _, _, _, _, _, _, _, _], _ => ⟨_, _, _, _, _, _, _, _, _, _, _, _, rfl⟩

/-- A cell of a row after its request id was quoted. -/
theorem cell_quoteRequestId {rows : SchemaRows} {row : List Cell} (full : row.length = 12)
    {column : String} (stored : column ∈ (interactionColumns (Column.required "request_id")).map
      Column.name) :
    (requotedInteractions rows).cell (quoteRequestId row) column =
      if column = "request_id" then jsonQuote ((firstInteractions rows).cell row column)
      else (firstInteractions rows).cell row column := by
  obtain ⟨_, _, _, _, _, _, _, _, _, _, _, _, rfl⟩ := eq_of_full full
  simp only [interactionColumns, Column.key, Column.plain, Column.required, Column.requiredOr,
    Column.references, List.map_cons, List.map_nil, List.mem_cons, List.not_mem_nil, or_false]
    at stored
  rcases stored with rfl | rfl | rfl | rfl | rfl | rfl | rfl | rfl | rfl | rfl | rfl | rfl
  all_goals rfl

/-- A quoted request id is never null. -/
theorem jsonQuote_ne_null (cell : Cell) : jsonQuote cell ≠ .null := by
  cases cell <;> exact Cell.noConfusion

/-- Different request ids stay different. -/
theorem apart_jsonQuote {first second : String}
    (apart : SchemaTable.Apart (.text first) (.text second)) :
    SchemaTable.Apart (jsonQuote (.text first)) (jsonQuote (.text second)) := by
  rcases apart with impossible | impossible | different
  · cases impossible
  · cases impossible
  · refine Or.inr (Or.inr fun same => different ?_)
    have requests := canonicalRequestId_injective (Cell.text.inj same)
    rw [RequestId.str.inj requests]

/-- The columns of the second version demand no more than those of the first. -/
theorem mem_interactionColumns : ∀ column ∈ interactionColumns (Column.required "request_id"),
    column = Column.required "request_id" ∨ column.name ≠ "request_id" ∧
      column ∈ interactionColumns uniqueRequestId := by
  decide

/-- The interactions are carried over with their request ids quoted. -/
theorem interactions_carried {rows : SchemaRows} (full : (firstInteractions rows).Full) :
    (firstInteractions rows).Carried (requotedInteractions rows) quoteRequestId where
  rows := rfl
  full := by
    intro row member
    obtain ⟨_, _, _, _, _, _, _, _, _, _, _, _, rfl⟩ := eq_of_full (full row member)
    rfl
  cells := by
    intro column stored
    have named := List.mem_map_of_mem (f := Column.name) stored
    rcases mem_interactionColumns column stored with rfl | ⟨other, kept⟩
    · refine Or.inr ⟨rfl, rfl, fun _ row member => ?_⟩
      rw [cell_quoteRequestId (full row member) named]
      exact jsonQuote_ne_null _
    · refine Or.inl ⟨kept, fun row member => ?_⟩
      rw [cell_quoteRequestId (full row member) named, if_neg other]
  ids := by
    intro row member
    rw [cell_quoteRequestId (full row member) (by decide), if_neg (by decide)]

/-- A file of version one has a table of interactions. -/
theorem mem_firstInteractions {rows : SchemaRows} :
    ("codex_interactions", firstInteractions rows) ∈ (schemaAt rows 1).tables :=
  List.mem_cons_of_mem _ List.mem_cons_self

/-- No two interactions that wait have the same request id, since no two had. -/
theorem requoted_pending {rows : SchemaRows} (first : (schemaAt rows 1).Consistent) :
    (requotedInteractions rows).AdmitsIndex pendingRequestIndex := by
  intro _
  apply List.Pairwise.filter _
  have stored : uniqueRequestId ∈ interactionColumns uniqueRequestId := by decide
  have full := first.full _ _ mem_firstInteractions
  have unique := (first.admits _ _ mem_firstInteractions uniqueRequestId stored).2 rfl
  refine List.pairwise_map.mpr (unique.imp_of_mem ?_)
  intro one two oneMem twoMem apart
  refine ⟨"request_id", List.mem_singleton_self _, ?_⟩
  rw [cell_quoteRequestId (full one oneMem) (by decide),
    cell_quoteRequestId (full two twoMem) (by decide), if_pos rfl, if_pos rfl]
  obtain ⟨oneText, oneIs⟩ := first.texts _ mem_firstInteractions one oneMem
  obtain ⟨twoText, twoIs⟩ := first.texts _ mem_firstInteractions two twoMem
  have texts : SchemaTable.Apart ((firstInteractions rows).cell one "request_id")
      ((firstInteractions rows).cell two "request_id") := apart
  rw [oneIs, twoIs] at texts ⊢
  exact apart_jsonQuote texts

/-- What `INSERT … SELECT` makes of the rows. -/
theorem selected_rows {rows : SchemaRows} (first : (schemaAt rows 1).Consistent) :
    (firstInteractions rows).rows.map (fun row : List Cell =>
      (interactionColumns (Column.required "request_id")).map fun column =>
        if column.name ∈ ["id", "session_id", "request_id", "kind", "status", "lark_message_id",
            "payload_summary", "requested_at", "resolved_at", "expires_at", "actor_id",
            "decision"] then
          if column.name ∈ ["request_id"] then
            jsonQuote ((firstInteractions rows).cell row column.name)
          else (firstInteractions rows).cell row column.name
        else column.default) = rows.interactions.map quoteRequestId := by
  apply List.map_congr_left
  intro row member
  obtain ⟨_, _, _, _, _, _, _, _, _, _, _, _, rfl⟩ := eq_of_full
    (first.full _ _ mem_firstInteractions row member)
  rfl

/-- The file while the second migration runs, with the rows of its new table. -/
def migratingFile (rows : SchemaRows) (inserted : List (List Cell)) : SchemaFile :=
  { schemaAt rows 1 with
    tables := (schemaAt rows 1).tables ++ [("codex_interactions_v2",
      ⟨interactionColumns (Column.required "request_id"), inserted⟩)] }

/-- Copying the interactions quotes their request ids. -/
theorem execute_insertSelect {rows : SchemaRows} (first : (schemaAt rows 1).Consistent) :
    (migratingFile rows []).execute false (.insertSelect "codex_interactions_v2"
      "codex_interactions" ["id", "session_id", "request_id", "kind", "status", "lark_message_id",
        "payload_summary", "requested_at", "resolved_at", "expires_at", "actor_id", "decision"]
      ["request_id"]) = .ok (migratingFile rows (rows.interactions.map quoteRequestId)) := by
  have target : (migratingFile rows []).table? "codex_interactions_v2" =
      some ⟨interactionColumns (Column.required "request_id"), []⟩ := rfl
  have source : (migratingFile rows []).table? "codex_interactions" =
      some (firstInteractions rows) := rfl
  unfold SchemaFile.execute
  simp only [target, source]
  rw [if_pos, List.nil_append, selected_rows first, if_pos]
  · rfl
  · exact (interactions_carried (first.full _ _ mem_firstInteractions)).admits
      (first.admits _ _ mem_firstInteractions)
  · unfold firstInteractions
    dsimp only
    decide

/-- The file before its index on the requests that wait is created. -/
def unindexedFile (rows : SchemaRows) : SchemaFile :=
  { schemaAt { rows with interactions := rows.interactions.map quoteRequestId } 2 with
    indexes := [sessionsStatusIndex, outboxDueIndex, auditCreatedIndex, interactionsStatusIndex]
    version := 1 }

/-- The index on pending requests can be created over the quoted ids. -/
theorem execute_pendingRequestIndex {rows : SchemaRows} (first : (schemaAt rows 1).Consistent) :
    (unindexedFile rows).execute false (.createIndex pendingRequestIndex false) =
      .ok { unindexedFile rows with
        indexes := (unindexedFile rows).indexes ++ [pendingRequestIndex] } := by
  have fresh : ((unindexedFile rows).indexes.any fun other =>
      other.name == pendingRequestIndex.name) = false := rfl
  have table : (unindexedFile rows).table? pendingRequestIndex.table =
      some (requotedInteractions rows) := rfl
  unfold SchemaFile.execute
  simp only [fresh, table, Bool.false_eq_true, if_false]
  rw [if_pos, if_pos (requoted_pending first)]
  unfold requotedInteractions
  dsimp only
  decide

/-- The migration from version one rebuilds the interactions and extends the outbox. -/
theorem executeAll_one {rows : SchemaRows} (first : (schemaAt rows 1).Consistent) :
    initializeSchema.executeAll (missingStatements 1) (schemaAt rows 1) =
      .ok (schemaAt (rows.upgraded 1) 3) := by
  have statements : missingStatements 1 =
      .createTable "codex_interactions_v2" (interactionColumns (Column.required "request_id"))
        false :: .insertSelect "codex_interactions_v2" "codex_interactions" ["id", "session_id",
          "request_id", "kind", "status", "lark_message_id", "payload_summary", "requested_at",
          "resolved_at", "expires_at", "actor_id", "decision"] ["request_id"] ::
        ([.dropTable "codex_interactions",
          .renameTable "codex_interactions_v2" "codex_interactions",
          .createIndex interactionsStatusIndex false] ++
        .createIndex pendingRequestIndex false :: .setUserVersion 2 :: missingStatements 2) := rfl
  have created : initializeSchema.execute (.createTable "codex_interactions_v2"
      (interactionColumns (Column.required "request_id")) false) (schemaAt rows 1) =
        .ok (migratingFile rows []) := rfl
  have replaced : initializeSchema.executeAll [.dropTable "codex_interactions",
      .renameTable "codex_interactions_v2" "codex_interactions",
      .createIndex interactionsStatusIndex false]
        (migratingFile rows (rows.interactions.map quoteRequestId)) =
      .ok (unindexedFile rows) := rfl
  have numbered : initializeSchema.execute (.setUserVersion 2) { unindexedFile rows with
      indexes := (unindexedFile rows).indexes ++ [pendingRequestIndex] } =
      .ok (schemaAt { rows with interactions := rows.interactions.map quoteRequestId } 2) := rfl
  rw [statements, Upgrade.executeAll_cons created,
    Upgrade.executeAll_cons (execute_insertSelect first), Upgrade.executeAll_append replaced,
    Upgrade.executeAll_cons (execute_pendingRequestIndex first), Upgrade.executeAll_cons numbered,
    executeAll_two]
  rfl

/-! ## Every version leads to the current one -/

/-- The second migration keeps a file consistent. -/
theorem consistent_requoted {rows : SchemaRows} (first : (schemaAt rows 1).Consistent) :
    (schemaAt { rows with interactions := rows.interactions.map quoteRequestId } 2).Consistent := by
  have full := first.full _ _ mem_firstInteractions
  refine first.replace mem_firstInteractions (interactions_carried full) ?_ ?_ ?_
  · intro other stored
    simpa [schemaAt, firstInteractions] using stored
  · intro name table
    simp only [schemaAt, requotedInteractions, List.mem_cons, List.not_mem_nil, or_false,
      Prod.mk.injEq]
    grind
  · intro _ row member
    obtain ⟨old, present, rfl⟩ := List.mem_map.mp member
    obtain ⟨text, same⟩ := first.texts _ mem_firstInteractions old present
    rw [cell_quoteRequestId (full old present) (by decide), if_pos rfl, same]
    exact ⟨_, rfl⟩

/-- The third migration keeps a file consistent. -/
theorem consistent_extended {rows : SchemaRows} (second : (schemaAt rows 2).Consistent) :
    (schemaAt (rows.upgraded 2) 3).Consistent := by
  have there : ("notification_outbox", ⟨outboxColumns, rows.outbox⟩) ∈ (schemaAt rows 2).tables :=
    List.mem_cons_of_mem _ (List.mem_cons_of_mem _ List.mem_cons_self)
  refine second.replace there (outbox_carried (second.full _ _ there)) ?_ ?_ ?_
  · intro other stored
    simpa [schemaAt] using stored
  · intro name table
    simp only [schemaAt, SchemaRows.upgraded, extendedOutbox, List.mem_cons, List.not_mem_nil,
      or_false, Prod.mk.injEq]
    grind
  · intro impossible
    exact absurd impossible (by decide)

/-! ## Beside the tables of another store -/

/-- The tables of a file are those of the Codex store, and refer to such tables. -/
def SchemaFile.IsCodex (file : SchemaFile) : Prop :=
  ∀ entry ∈ file.tables, entry.1 ∈ codexTableNames ∧ ∀ column ∈ entry.2.columns,
    ∀ parent ∈ column.refersTo, parent ∈ codexTableNames

/-- The tables and indexes of every version are those of the store. -/
theorem schemaAt_isCodex (rows : SchemaRows) {version : Nat} (known : version ≤ schemaVersion) :
    (schemaAt rows version).IsCodex := by
  unfold SchemaFile.IsCodex
  match version, known with
  | 0, _ =>
      intro entry impossible
      cases impossible
  | 1, _ | 2, _ | 3, _ =>
      simp only [schemaAt, List.forall_mem_cons, List.not_mem_nil, false_implies, implies_true,
        and_true]
      decide

/-- The tables of another store as a file. -/
def ForeignTables.file (others : ForeignTables) : SchemaFile := ⟨others.tables, others.indexes, 0⟩

section Beside

variable {others : ForeignTables} {file : SchemaFile} {name : String} {id : Cell}

/-- A row of the store has its id beside further tables exactly when it has it alone. -/
theorem hasId_beside_codex (own : name ∈ codexTableNames) :
    (others.beside file).HasId name id ↔ file.HasId name id := by
  constructor
  · rintro ⟨table, stored, found⟩
    rcases List.mem_append.mp stored with foreign | stored
    · exact absurd own (others.named _ foreign)
    · exact ⟨table, stored, found⟩
  · rintro ⟨table, stored, found⟩
    exact ⟨table, List.mem_append_right _ stored, found⟩

/-- A row of a further table has its id beside the store exactly when it has it alone. -/
theorem hasId_beside_foreign (codex : file.IsCodex) (foreign : name ∉ codexTableNames) :
    (others.beside file).HasId name id ↔ others.file.HasId name id := by
  constructor
  · rintro ⟨table, stored, found⟩
    rcases List.mem_append.mp stored with stored | own
    · exact ⟨table, stored, found⟩
    · exact absurd (codex _ own).1 foreign
  · rintro ⟨table, stored, found⟩
    exact ⟨table, List.mem_append_left _ stored, found⟩

/-- A shared file is consistent exactly if both of its parts are. -/
theorem consistent_beside (codex : file.IsCodex) :
    (others.beside file).Consistent ↔ others.file.Consistent ∧ file.Consistent := by
  have codexInteractions : "codex_interactions" ∈ codexTableNames := by decide
  constructor
  · intro shared
    refine ⟨⟨?_, ?_, ?_, ?_⟩, ⟨?_, ?_, ?_, ?_⟩⟩
    · exact fun name table stored => shared.full name table (List.mem_append_left _ stored)
    · exact fun name table stored => shared.admits name table (List.mem_append_left _ stored)
    · intro name table stored column listed parent refers row member filled
      have found := shared.refers name table (List.mem_append_left _ stored) column listed parent
        refers row member filled
      exact (hasId_beside_foreign codex (others.refers _ stored column listed parent refers)).mp
        found
    · intro table stored
      exact absurd codexInteractions (others.named _ stored)
    · exact fun name table stored => shared.full name table (List.mem_append_right _ stored)
    · exact fun name table stored => shared.admits name table (List.mem_append_right _ stored)
    · intro name table stored column listed parent refers row member filled
      have found := shared.refers name table (List.mem_append_right _ stored) column listed parent
        refers row member filled
      exact (hasId_beside_codex ((codex _ stored).2 column listed parent refers)).mp found
    · exact fun table stored => shared.texts table (List.mem_append_right _ stored)
  · rintro ⟨foreign, own⟩
    refine ⟨?_, ?_, ?_, ?_⟩
    · intro name table stored
      rcases List.mem_append.mp stored with stored | stored
      · exact foreign.full name table stored
      · exact own.full name table stored
    · intro name table stored
      rcases List.mem_append.mp stored with stored | stored
      · exact foreign.admits name table stored
      · exact own.admits name table stored
    · intro name table stored column listed parent refers row member filled
      rcases List.mem_append.mp stored with stored | stored
      · refine (hasId_beside_foreign codex ?_).mpr
          (foreign.refers name table stored column listed parent refers row member filled)
        exact others.refers _ stored column listed parent refers
      · refine (hasId_beside_codex ?_).mpr
          (own.refers name table stored column listed parent refers row member filled)
        exact (codex _ stored).2 column listed parent refers
    · intro table stored
      rcases List.mem_append.mp stored with stored | stored
      · exact absurd codexInteractions (others.named _ stored)
      · exact own.texts table stored

end Beside

/-- The migrations lead from a consistent file of any version to a consistent file of the current
one. -/
theorem executeAll_missing {rows : SchemaRows} {version : Nat} (known : version ≤ schemaVersion)
    (consistent : (schemaAt rows version).Consistent) :
    initializeSchema.executeAll (missingStatements version) (schemaAt rows version) =
      .ok (schemaAt (rows.upgraded version) schemaVersion) ∧
      (schemaAt (rows.upgraded version) schemaVersion).Consistent := by
  match version, known with
  | 0, _ => exact ⟨rfl, consistent_empty⟩
  | 1, _ =>
      exact ⟨executeAll_one consistent, consistent_extended (consistent_requoted consistent)⟩
  | 2, _ => exact ⟨executeAll_two rows, consistent_extended consistent⟩
  | 3, _ => exact ⟨rfl, consistent⟩

/-- They do so beside the tables of another store. -/
theorem initializeSchema_leads {others : ForeignTables} {rows : SchemaRows} {version : Nat}
    (known : version ≤ schemaVersion)
    (consistent : (others.beside (schemaAt rows version)).Consistent) :
    initializeSchema.Leads (others.beside (schemaAt rows version))
        (others.beside (schemaAt (rows.upgraded version) schemaVersion)) ∧
      (others.beside (schemaAt (rows.upgraded version) schemaVersion)).Consistent := by
  obtain ⟨foreign, own⟩ := (consistent_beside (schemaAt_isCodex rows known)).mp consistent
  obtain ⟨migrated, lasting⟩ := executeAll_missing known own
  have judged : ∀ file : SchemaFile, file.version ≤ schemaVersion →
      initializeSchema.check file = .ok (file.version == schemaVersion) := fun file reached =>
    if_neg (Nat.not_lt.mpr reached)
  have numbered : (others.beside (schemaAt rows version)).version = version := by
    unfold ForeignTables.beside schemaAt
    split
    all_goals rfl
  have reached := Nat.le_trans (Nat.le_of_eq numbered) known
  refine ⟨⟨?_, rfl, rfl, ?_, ?_⟩, ?_⟩
  · have planned : initializeSchema.plan (others.beside (schemaAt rows version)) =
        missingStatements version := congrArg missingStatements numbered
    rw [planned]
    exact executeAll_beside (missingStatements_isCodex version) migrated
  · intro uptodate
    rw [judged _ reached, numbered, Except.ok.injEq, beq_iff_eq] at uptodate
    rw [uptodate]
    rfl
  · intro error unsupported
    rw [judged _ reached] at unsupported
    cases unsupported
  · exact (consistent_beside (schemaAt_isCodex _ (Nat.le_refl _))).mpr ⟨foreign, lasting⟩

/-- Whatever any number of stores do when they open a file of a known version, and wherever they are
struck, they see the file as it was or with all that the migrations make of it; a store that is open
has the current tables, no statement fails, every reference still finds its row, and the tables of
another store stay as they are. -/
theorem schema_upgraded {others : ForeignTables} {rows : SchemaRows} {version : Nat}
    (known : version ≤ schemaVersion)
    (consistent : (others.beside (schemaAt rows version)).Consistent)
    {race : Upgrade.Race SchemaFile SchemaStatement PyError}
    (reachable : (initializeSchema.system (others.beside (schemaAt rows version))).Reachable
      race) :
    race.Sound initializeSchema (others.beside (schemaAt rows version))
        (others.beside (schemaAt (rows.upgraded version) schemaVersion)) ∧
      (others.beside (schemaAt (rows.upgraded version) schemaVersion)).Consistent := by
  obtain ⟨leads, lasting⟩ := initializeSchema_leads known consistent
  exact ⟨Upgrade.Race.sound leads reachable, lasting⟩

/-- A file of the first version with a request that waits and a message about it. -/
def firstFile : SchemaRows where
  sessions := [[.text "s", .null, .null, .text "name", .text "/work", .null, .text "read-only",
    .text "running", .text "", .text "2025", .text "2025"]]
  interactions := [[.text "i", .text "s", .text "7", .text "user_input", .text "pending", .null,
    .text "", .text "2025", .null, .text "2026", .null, .null]]
  events := []
  outbox := [[.int 1, .text "s", .text "i", .text "codex:interaction_requested", .text "",
    .int 0, .text "2025", .null, .null, .text "2025"]]
  audit := []

/-- The tables of `SQLiteNotificationStore`. -/
def notificationTables : ForeignTables where
  tables := [("notification_state", ⟨[Column.key "dedupe_key", Column.required "status",
      Column.required "last_sent_at", Column.requiredOr "send_count" (.int 1)],
      [[.text "k", .text "success", .text "2025", .int 1]]⟩),
    ("notification_history", ⟨[Column.key "id", Column.required "dedupe_key",
      Column.required "status", Column.required "sent_at"],
      [[.int 1, .text "k", .text "success", .text "2025"]]⟩)]
  indexes := []
  named := by decide
  refers := by decide
  indexed := by decide

/-- One store is struck in its transaction, and the next one upgrades the file. -/
theorem second_store_upgrades :
    ∃ race : Upgrade.Race SchemaFile SchemaStatement PyError,
      race.connections 0 = .gone ∧ race.connections 1 = .returned ∧
      race.Sound initializeSchema (notificationTables.beside (schemaAt firstFile 1))
        (notificationTables.beside (schemaAt (firstFile.upgraded 1) 3)) ∧
      (notificationTables.beside (schemaAt (firstFile.upgraded 1) 3)).Consistent := by
  have followed : (System.follow (Upgrade.Race.step initializeSchema) (fun _ _ => true)
      (.start (notificationTables.beside (schemaAt firstFile 1)))
      ([0, 0, 0, 0].map Upgrade.Event.go ++ [.strike 0] ++
        (List.replicate 14 1).map Upgrade.Event.go)).any fun race =>
        decide (race.connections 0 = .gone ∧ race.connections 1 = .returned) := by
    decide
  obtain ⟨race, follows, holds⟩ := (Option.any_eq_true _ _).mp followed
  have reachable : (initializeSchema.system
      (notificationTables.beside (schemaAt firstFile 1))).Reachable race :=
    ⟨_, rfl, System.reachesVia_of_follow (fun _ _ _ stepped => stepped) (fun _ _ _ => trivial)
      follows⟩
  obtain ⟨struck, opened⟩ := of_decide_eq_true holds
  exact ⟨race, struck, opened, schema_upgraded (by decide)
    (SchemaFile.consistent_of_check (by decide)) reachable⟩

end LarkBot
