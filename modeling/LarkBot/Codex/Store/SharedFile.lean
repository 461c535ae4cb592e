import LarkBot.Codex.Store.Schema

/-! # A file that another store uses too

`SQLiteNotificationStore` keeps its tables in the same file. The migrations name only the tables
and indexes of the Codex store, so they do beside foreign tables what they do without them
(`LarkBot.executeAll_beside`).
-/

namespace LarkBot

open Foundation

/-- The tables of the Codex store, with the one that a migration uses for a while. -/
def codexTableNames : List String :=
  ["codex_sessions", "codex_interactions", "codex_interactions_v2", "codex_event_dedupe",
    "notification_outbox", "codex_audit"]

def codexIndexNames : List String :=
  [sessionsStatusIndex, interactionsStatusIndex, outboxDueIndex, auditCreatedIndex,
    pendingRequestIndex].map SchemaIndex.name

/-- The part of a file that belongs to another store: it shares no name with the Codex store and
refers to none of its tables. -/
structure ForeignTables where
  tables : List (String × SchemaTable)
  indexes : List SchemaIndex
  named : ∀ entry ∈ tables, entry.1 ∉ codexTableNames
  refers : ∀ entry ∈ tables, ∀ column ∈ entry.2.columns, ∀ parent ∈ column.refersTo,
    parent ∉ codexTableNames
  indexed : ∀ index ∈ indexes, index.name ∉ codexIndexNames ∧ index.table ∉ codexTableNames

/-- A file with the tables of another store in front of its own. -/
def ForeignTables.beside (others : ForeignTables) (file : SchemaFile) : SchemaFile :=
  { file with tables := others.tables ++ file.tables, indexes := others.indexes ++ file.indexes }

/-- A statement about tables and indexes of the Codex store. -/
def SchemaStatement.IsCodex : SchemaStatement → Prop
  | .createTable name _ _ | .dropTable name | .addColumn name _ => name ∈ codexTableNames
  | .createIndex index _ => index.name ∈ codexIndexNames ∧ index.table ∈ codexTableNames
  | .insertSelect target source _ _ => target ∈ codexTableNames ∧ source ∈ codexTableNames
  | .renameTable name newName => name ∈ codexTableNames ∧ newName ∈ codexTableNames
  | .setUserVersion _ => True

instance : DecidablePred SchemaStatement.IsCodex := fun statement => by
  cases statement <;> unfold SchemaStatement.IsCodex <;> infer_instance

section Statements

variable {others : ForeignTables} {file next : SchemaFile}

/-- A table of the Codex store is found as without the foreign ones. -/
theorem table?_beside {name : String} (own : name ∈ codexTableNames) :
    (others.beside file).table? name = file.table? name := by
  have absent : others.tables.lookup name = none := by
    rw [List.lookup_eq_none_iff]
    intro entry member
    have apart : name ≠ entry.1 := fun same => others.named entry member (same ▸ own)
    exact bne_iff_ne.mpr apart
  unfold SchemaFile.table? ForeignTables.beside
  rw [List.lookup_append, absent, Option.none_or]

/-- A change of the entries under one name leaves the foreign tables. -/
theorem map_foreign {name : String} (own : name ∈ codexTableNames)
    {change : String × SchemaTable → String × SchemaTable} :
    others.tables.map (fun entry => if entry.1 = name then change entry else entry) =
      others.tables := by
  refine (List.map_congr_left fun entry member => ?_).trans (List.map_id _)
  apply if_neg
  intro same
  exact others.named entry member (same ▸ own)

/-- Setting a table of the store leaves the tables beside it. -/
theorem setTable_beside {name : String} (own : name ∈ codexTableNames) (table : SchemaTable) :
    (others.beside file).setTable name table = others.beside (file.setTable name table) := by
  unfold SchemaFile.setTable ForeignTables.beside
  simp only [List.map_append]
  rw [map_foreign own]

/-- Dropping a table of the store does the same beside further tables. -/
theorem dropTable_beside {name : String} (own : name ∈ codexTableNames)
    (executes : file.execute false (.dropTable name) = .ok next) :
    (others.beside file).execute false (.dropTable name) = .ok (others.beside next) := by
  have tables : others.tables.filter (fun entry => entry.1 ≠ name) = others.tables := by
    refine List.filter_eq_self.mpr fun entry member => decide_eq_true fun same => ?_
    exact others.named entry member (same ▸ own)
  have indexes : others.indexes.filter (fun index => index.table ≠ name) = others.indexes := by
    refine List.filter_eq_self.mpr fun index member => decide_eq_true fun same => ?_
    exact (others.indexed index member).2 (same ▸ own)
  simp only [SchemaFile.execute, table?_beside own] at executes ⊢
  split at executes
  next => cases executes
  next stored =>
    rw [if_neg stored]
    simp only [Bool.false_eq_true, false_and, ↓reduceIte] at executes ⊢
    cases executes
    simp only [ForeignTables.beside, List.filter_append, tables, indexes]

/-- Renaming a table of the store to a name of the store does the same beside further
tables. -/
theorem renameTable_beside {name newName : String} (own : name ∈ codexTableNames)
    (ownNew : newName ∈ codexTableNames)
    (executes : file.execute false (.renameTable name newName) = .ok next) :
    (others.beside file).execute false (.renameTable name newName) = .ok (others.beside next) := by
  have tables : others.tables.map (fun entry =>
      (if entry.1 = name then newName else entry.1, { entry.2 with
        columns := entry.2.columns.map fun column =>
          if column.refersTo = some name then column.references newName else column })) =
      others.tables := by
    refine (List.map_congr_left fun entry member => ?_).trans (List.map_id _)
    have columns : entry.2.columns.map (fun column =>
        if column.refersTo = some name then column.references newName else column) =
        entry.2.columns := by
      refine (List.map_congr_left fun column listed => ?_).trans (List.map_id _)
      exact if_neg fun refers => others.refers entry member column listed name refers own
    have apart : entry.1 ≠ name := fun same => others.named entry member (same ▸ own)
    rw [columns, if_neg apart]
    rfl
  have indexes : others.indexes.map (fun index =>
      if index.table = name then { index with table := newName } else index) = others.indexes := by
    refine (List.map_congr_left fun index member => ?_).trans (List.map_id _)
    have apart : index.table ≠ name := fun same => (others.indexed index member).2 (same ▸ own)
    exact if_neg apart
  simp only [SchemaFile.execute, table?_beside own, table?_beside ownNew] at executes ⊢
  split at executes
  next => cases executes
  next free =>
    rw [if_neg free]
    split at executes
    next => cases executes
    next stored =>
      rw [if_neg stored]
      cases executes
      simp only [ForeignTables.beside, List.map_append, tables, indexes]

/-- Creating a table of the store does the same beside further tables, whose names
differ from its own. -/
theorem createTable_beside {name : String} {columns : List Column} {ifNotExists : Bool}
    (own : name ∈ codexTableNames)
    (executes : file.execute false (.createTable name columns ifNotExists) = .ok next) :
    (others.beside file).execute false (.createTable name columns ifNotExists) =
      .ok (others.beside next) := by
  simp only [SchemaFile.execute, table?_beside own] at executes ⊢
  split at executes
  next stored =>
    rw [if_pos stored]
    split at executes
    next allowed =>
      rw [if_pos allowed]
      cases executes
      rfl
    next => cases executes
  next missing =>
    rw [if_neg missing]
    cases executes
    simp only [ForeignTables.beside, List.append_assoc]

/-- Creating an index of the store does the same beside further indexes, whose names
differ from its own. -/
theorem createIndex_beside {index : SchemaIndex} {ifNotExists : Bool}
    (ownName : index.name ∈ codexIndexNames) (own : index.table ∈ codexTableNames)
    (executes : file.execute false (.createIndex index ifNotExists) = .ok next) :
    (others.beside file).execute false (.createIndex index ifNotExists) =
      .ok (others.beside next) := by
  have taken : ((others.beside file).indexes.any fun other => other.name == index.name) =
      file.indexes.any fun other => other.name == index.name := by
    have absent : (others.indexes.any fun other => other.name == index.name) = false := by
      apply List.any_eq_false.mpr
      intro other member same
      exact (others.indexed other member).1 (beq_iff_eq.mp same ▸ ownName)
    simp only [ForeignTables.beside, List.any_append, absent, Bool.false_or]
  simp only [SchemaFile.execute, taken, table?_beside own] at executes ⊢
  split at executes
  next stored =>
    rw [if_pos stored]
    split at executes
    next allowed =>
      rw [if_pos allowed]
      cases executes
      rfl
    next => cases executes
  next missing =>
    rw [if_neg missing]
    cases found : file.table? index.table with
    | none =>
        rw [found] at executes
        cases executes
    | some table =>
        rw [found] at executes
        dsimp only at executes ⊢
        split at executes
        next columns =>
          rw [if_pos columns]
          split at executes
          next admits =>
            rw [if_pos admits]
            cases executes
            simp only [ForeignTables.beside, List.append_assoc]
          next => cases executes
        next => cases executes

/-- Copying rows between two tables of the store does the same beside further tables. -/
theorem insertSelect_beside {target source : String} {columns quoted : List String}
    (own : target ∈ codexTableNames) (ownSource : source ∈ codexTableNames)
    (executes : file.execute false (.insertSelect target source columns quoted) = .ok next) :
    (others.beside file).execute false (.insertSelect target source columns quoted) =
      .ok (others.beside next) := by
  simp only [SchemaFile.execute, table?_beside own, table?_beside ownSource] at executes ⊢
  cases targeted : file.table? target with
  | none =>
      rw [targeted] at executes
      cases executes
  | some targetTable =>
      cases read : file.table? source with
      | none =>
          rw [targeted, read] at executes
          cases executes
      | some sourceTable =>
          rw [targeted, read] at executes
          dsimp only at executes ⊢
          split at executes
          next named =>
            rw [if_pos named]
            split at executes
            next admits =>
              rw [if_pos admits, setTable_beside own]
              cases executes
              rfl
            next => cases executes
          next => cases executes

/-- Adding a column to a table of the store does the same beside further tables. -/
theorem addColumn_beside {name : String} {column : Column} (own : name ∈ codexTableNames)
    (executes : file.execute false (.addColumn name column) = .ok next) :
    (others.beside file).execute false (.addColumn name column) = .ok (others.beside next) := by
  simp only [SchemaFile.execute, table?_beside own] at executes ⊢
  cases found : file.table? name with
  | none =>
      rw [found] at executes
      cases executes
  | some table =>
      rw [found] at executes
      dsimp only at executes ⊢
      split at executes
      next => cases executes
      next fresh =>
        rw [if_neg fresh, setTable_beside own]
        cases executes
        rfl

/-- A statement about the Codex store does the same beside foreign tables. -/
theorem execute_beside {statement : SchemaStatement} (own : statement.IsCodex)
    (executes : file.execute false statement = .ok next) :
    (others.beside file).execute false statement = .ok (others.beside next) := by
  cases statement with
  | createTable => exact createTable_beside own executes
  | createIndex => exact createIndex_beside own.1 own.2 executes
  | insertSelect => exact insertSelect_beside own.1 own.2 executes
  | dropTable => exact dropTable_beside own executes
  | renameTable => exact renameTable_beside own.1 own.2 executes
  | addColumn => exact addColumn_beside own executes
  | setUserVersion version =>
      cases executes
      rfl

/-- A whole migration does beside further tables what it does alone, by induction on its
statements. -/
theorem executeAll_beside {statements : List SchemaStatement}
    (own : ∀ statement ∈ statements, statement.IsCodex)
    (executes : initializeSchema.executeAll statements file = .ok next) :
    initializeSchema.executeAll statements (others.beside file) = .ok (others.beside next) := by
  induction statements generalizing file with
  | nil =>
      cases executes
      rfl
  | cons statement statements ih =>
      have later := fun other member => own other (List.mem_cons_of_mem statement member)
      cases first : file.execute false statement with
      | error error =>
          simp only [Upgrade.executeAll, initializeSchema, first] at executes
          cases executes
      | ok middle =>
          have executed : initializeSchema.execute statement file = .ok middle := first
          rw [Upgrade.executeAll_cons executed] at executes
          have beside : initializeSchema.execute statement (others.beside file) =
              .ok (others.beside middle) :=
            execute_beside (own statement List.mem_cons_self) first
          rw [Upgrade.executeAll_cons beside]
          exact ih later executes

/-- The migrations that a file still needs name tables and indexes of the store only. -/
theorem missingStatements_isCodex (version : Nat) :
    ∀ statement ∈ missingStatements version, statement.IsCodex := by
  match version with
  | 0 | 1 | 2 => decide
  | version + 3 =>
      have none : schemaVersion - (version + 3) = 0 :=
        Nat.sub_eq_zero_of_le (Nat.le_add_left 3 version)
      unfold missingStatements
      rw [none]
      intro statement impossible
      cases impossible

end Statements

end LarkBot
