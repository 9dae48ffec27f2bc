import Mathlib.Data.List.Nodup

/-!
# The audit_logs migration

`upgrade` and `downgrade` of revision `18d8eddd6be5` (`add audit_logs table`), over the part of a
database schema they touch: the tables with their columns, the indexes, and the ENUM types. The
Alembic operations run as PostgreSQL runs them. Tables and indexes share one namespace of
relations, and each table comes with a row type of its own name, so a table's name must be free
among the relations and the types, an index's name among the relations, and an ENUM type's name
among the types. An index needs its table and its columns, and what does not exist, or is a
relation of the other kind, is not dropped; the first failure stops the migration.
`create_table` first creates the ENUM types of its `sa.Enum` columns (their `before_create`
event); `drop_table` is given the table's name only, so it drops the table with its indexes and
leaves the ENUM types.

* `upgrade_downgrade`: on a well-formed schema where the name `audit_logs` is free among the
  relations and the types, the names of its indexes among the relations, and `auditlogs_action`
  among the types, `upgrade` adds `audit_logs` with its seven columns, the six single-column
  indexes on it and the type `auditlogs_action`, changing nothing else, and `downgrade` then
  gives the tables and the indexes back; the type stays.
* `upgrade_downgrade_upgrade`: so `upgrade` after `upgrade` and `downgrade` raises
  `DuplicateObject` on `auditlogs_action`.
-/

namespace AiBackend.Audit

/-- The column types the migration uses. -/
inductive ColumnType
  /-- `sa.String(length=...)`. -/
  | string (length : Nat)
  /-- `sa.Enum(*values, name=...)`. -/
  | enum (values : List String) (name : String)
  /-- `postgresql.JSONB(astext_type=sa.Text())`. -/
  | jsonb
  /-- `sa.DateTime(timezone=...)`. -/
  | dateTime (timezone : Bool)
  deriving DecidableEq, Repr

/-- `sa.Column`. -/
structure Column where
  name : String
  type : ColumnType
  nullable : Bool
  serverDefault : Option String
  deriving DecidableEq, Repr

/-- An index: its name, its table, its columns, and whether it is unique. -/
structure Index where
  name : String
  table : String
  columns : List String
  unique : Bool
  deriving DecidableEq, Repr

/-- The tables, by name with their columns, the indexes and the ENUM types of a database. -/
structure Schema where
  tables : List (String × List Column)
  indexes : List Index
  types : List String
  deriving DecidableEq, Repr

/-- What PostgreSQL raises, by the `psycopg2.errors` class of its SQLSTATE. -/
inductive SchemaError
  /-- `relation "name" already exists`, for a table or an index. -/
  | duplicateTable (name : String)
  /-- `relation "name" does not exist`, `table "name" does not exist`. -/
  | undefinedTable (name : String)
  /-- `column "column" does not exist`. -/
  | undefinedColumn (table column : String)
  /-- `type "name" already exists`, for an ENUM type or the row type of a table. -/
  | duplicateObject (name : String)
  /-- `index "name" does not exist`. -/
  | undefinedObject (name : String)
  /-- A relation of the other kind: `"name" is not an index`, `"name" is not a table`, or an
  index given as the table of an index. -/
  | wrongObjectType (name : String)
  deriving DecidableEq, Repr

/-- An Alembic operation. -/
inductive Op
  /-- `op.create_table(name, *columns)`. -/
  | createTable (name : String) (columns : List Column)
  /-- `op.create_index(name, table_name, columns, unique=...)`. -/
  | createIndex (name table : String) (columns : List String) (unique : Bool)
  /-- `op.drop_index(name, table_name=...)`. -/
  | dropIndex (name table : String)
  /-- `op.drop_table(name)`. -/
  | dropTable (name : String)
  deriving DecidableEq, Repr

namespace Schema

/-- The columns of the table `name`, if it exists. -/
def columnsOf (s : Schema) (name : String) : Option (List Column) :=
  (s.tables.find? fun t => t.1 == name).map Prod.snd

/-- Whether an index `name` exists. -/
def hasIndex (s : Schema) (name : String) : Bool :=
  s.indexes.any fun ix => ix.name == name

/-- Whether a relation, a table or an index, is named `name`. -/
def hasRelation (s : Schema) (name : String) : Bool :=
  (s.columnsOf name).isSome || s.hasIndex name

/-- Whether a type is named `name`: an ENUM type, or the row type of a table. -/
def hasType (s : Schema) (name : String) : Bool :=
  decide (name ∈ s.types) || (s.columnsOf name).isSome

end Schema

/-- One column of the `before_create` event of a table: the type of an `sa.Enum` column is
created unless the event has created it already (`_check_for_name_in_memos`); `memo` lists the
types created so far. -/
def enumTypes.step (memo : List String) (c : Column) : List String :=
  match c.type with
  | .enum _ name => if name ∈ memo then memo else memo ++ [name]
  | _ => memo

/-- The ENUM types `create_table` creates for `columns`, each once, in column order. -/
def enumTypes (columns : List Column) : List String :=
  columns.foldl enumTypes.step []

/-- One operation. `CREATE TABLE` checks the relation name before the row type; `CREATE INDEX`
checks the table, then the columns, then the name. -/
def Op.apply (s : Schema) : Op → Except SchemaError Schema
  | .createTable name columns =>
    match (enumTypes columns).find? s.hasType with
    | some t => .error (.duplicateObject t)
    | none =>
      if s.hasRelation name then .error (.duplicateTable name)
      else if name ∈ s.types ++ enumTypes columns then .error (.duplicateObject name)
      else .ok { s with
        tables := s.tables ++ [(name, columns)],
        types := s.types ++ enumTypes columns }
  | .createIndex name table columns unique =>
    match s.columnsOf table with
    | none => .error (if s.hasIndex table then .wrongObjectType table else .undefinedTable table)
    | some cols =>
      match columns.find? fun c => !(cols.any fun col => col.name == c) with
      | some c => .error (.undefinedColumn table c)
      | none =>
        if s.hasRelation name then .error (.duplicateTable name)
        else .ok { s with indexes := s.indexes ++ [⟨name, table, columns, unique⟩] }
  | .dropIndex name _ =>
    if s.hasIndex name then .ok { s with indexes := s.indexes.filter fun ix => ix.name != name }
    else .error (if (s.columnsOf name).isSome then .wrongObjectType name else .undefinedObject name)
  | .dropTable name =>
    if (s.columnsOf name).isSome then
      .ok { s with
        tables := s.tables.filter fun t => t.1 != name,
        indexes := s.indexes.filter fun ix => ix.table != name }
    else .error (if s.hasIndex name then .wrongObjectType name else .undefinedTable name)

/-- The operations in order; the first failure stops the run. -/
def runOps (s : Schema) : List Op → Except SchemaError Schema
  | [] => .ok s
  | op :: ops =>
    match op.apply s with
    | .ok s' => runOps s' ops
    | .error e => .error e

/-! ## The migration -/

/-- The columns `upgrade` creates `audit_logs` with. -/
def auditLogsColumns : List Column :=
  [⟨"user_id", .string 256, true, none⟩,
    ⟨"access_key", .string 20, true, none⟩,
    ⟨"email", .string 64, true, none⟩,
    ⟨"action", .enum ["CREATE", "CHANGE", "DELETE"] "auditlogs_action", true, none⟩,
    ⟨"data", .jsonb, true, none⟩,
    ⟨"target", .string 64, true, none⟩,
    ⟨"created_at", .dateTime true, true, some "now()"⟩]

/-- `upgrade()`. -/
def upgrade : List Op :=
  [.createTable "audit_logs" auditLogsColumns,
    .createIndex "ix_audit_logs_access_key" "audit_logs" ["access_key"] false,
    .createIndex "ix_audit_logs_action" "audit_logs" ["action"] false,
    .createIndex "ix_audit_logs_created_at" "audit_logs" ["created_at"] false,
    .createIndex "ix_audit_logs_email" "audit_logs" ["email"] false,
    .createIndex "ix_audit_logs_target" "audit_logs" ["target"] false,
    .createIndex "ix_audit_logs_user_id" "audit_logs" ["user_id"] false]

/-- `downgrade()`. -/
def downgrade : List Op :=
  [.dropIndex "ix_audit_logs_user_id" "audit_logs",
    .dropIndex "ix_audit_logs_target" "audit_logs",
    .dropIndex "ix_audit_logs_email" "audit_logs",
    .dropIndex "ix_audit_logs_created_at" "audit_logs",
    .dropIndex "ix_audit_logs_action" "audit_logs",
    .dropIndex "ix_audit_logs_access_key" "audit_logs",
    .dropTable "audit_logs"]

/-- The single-column, non-unique index `upgrade` creates on the column `c` of `audit_logs`. -/
def auditLogsIndex (c : String) : Index := ⟨"ix_audit_logs_" ++ c, "audit_logs", [c], false⟩

/-- The indexed columns of `audit_logs`, in the order `upgrade` indexes them. -/
def auditLogsIndexedColumns : List String :=
  ["access_key", "action", "created_at", "email", "target", "user_id"]

/-! ## Tables, indexes and types -/

theorem enumTypes_auditLogsColumns : enumTypes auditLogsColumns = ["auditlogs_action"] := by
  decide

namespace Schema

/-- Every index is on columns of an existing table, and the tables, the indexes and the ENUM
types have unique names. -/
structure WellFormed (s : Schema) : Prop where
  tables : (s.tables.map Prod.fst).Nodup
  indexes : (s.indexes.map Index.name).Nodup
  columns : ∀ ix ∈ s.indexes, ∃ cols, s.columnsOf ix.table = some cols ∧
    ∀ c ∈ ix.columns, c ∈ cols.map Column.name
  types : s.types.Nodup

variable {s : Schema}

theorem columnsOf_eq_none {name : String} :
    s.columnsOf name = none ↔ ∀ t ∈ s.tables, t.1 ≠ name := by
  simp [columnsOf, List.find?_eq_none]

theorem columnsOf_append (name : String) (columns : List Column) (types : List String)
    (k : String) :
    ({ s with tables := s.tables ++ [(name, columns)], types := types } : Schema).columnsOf k =
      (s.columnsOf k).or (if name = k then some columns else none) := by
  simp only [columnsOf, List.find?_append]
  cases s.tables.find? (fun t => t.1 == k) <;> by_cases h : name = k <;> simp [h]

theorem hasIndex_eq_false {name : String} :
    s.hasIndex name = false ↔ ∀ ix ∈ s.indexes, ix.name ≠ name := by
  simp [hasIndex]

theorem hasRelation_eq_false {name : String} :
    s.hasRelation name = false ↔ s.columnsOf name = none ∧ s.hasIndex name = false := by
  simp [hasRelation]

theorem hasRelation_append (ix : Index) (name : String) :
    ({ s with indexes := s.indexes ++ [ix] } : Schema).hasRelation name =
      (s.hasRelation name || ix.name == name) := by
  simp [hasRelation, hasIndex, columnsOf, List.any_append, Bool.or_assoc]

end Schema

/-! ## One operation -/

namespace Op

variable {s s' : Schema}

/-- What a successful operation does, and what it needed. -/
theorem apply_eq_ok {op : Op} (h : op.apply s = .ok s') :
    (∃ name columns, op = .createTable name columns ∧
      (∀ t ∈ enumTypes columns, s.hasType t = false) ∧ s.hasRelation name = false ∧
      name ∉ s.types ++ enumTypes columns ∧
      s' = { s with
        tables := s.tables ++ [(name, columns)],
        types := s.types ++ enumTypes columns }) ∨
    (∃ name table columns unique cols, op = .createIndex name table columns unique ∧
      s.columnsOf table = some cols ∧ (∀ c ∈ columns, c ∈ cols.map Column.name) ∧
      s.hasRelation name = false ∧
      s' = { s with indexes := s.indexes ++ [⟨name, table, columns, unique⟩] }) ∨
    (∃ name table, op = .dropIndex name table ∧ s.hasIndex name = true ∧
      s' = { s with indexes := s.indexes.filter fun ix => ix.name != name }) ∨
    (∃ name cols, op = .dropTable name ∧ s.columnsOf name = some cols ∧
      s' = { s with
        tables := s.tables.filter fun t => t.1 != name,
        indexes := s.indexes.filter fun ix => ix.table != name }) := by
  cases op with
  | createTable name columns =>
    simp only [apply] at h
    split at h; · cases h
    rename_i hf
    split at h; · cases h
    split at h <;> cases h
    exact .inl ⟨name, columns, rfl, fun t ht => by simpa using List.find?_eq_none.1 hf t ht,
      by simpa using ‹¬ s.hasRelation name = true›, ‹_›, rfl⟩
  | createIndex name table columns unique =>
    simp only [apply] at h
    split at h; · cases h
    rename_i cols hcols
    split at h; · cases h
    rename_i hf
    split at h <;> cases h
    refine .inr (.inl ⟨name, table, columns, unique, cols, rfl, hcols, fun c hc => ?_,
      by simpa using ‹¬ s.hasRelation name = true›, rfl⟩)
    simpa using List.find?_eq_none.1 hf c hc
  | dropIndex name table =>
    simp only [apply] at h
    split at h <;> cases h
    exact .inr (.inr (.inl ⟨name, table, rfl, ‹_›, rfl⟩))
  | dropTable name =>
    simp only [apply] at h
    split at h <;> cases h
    obtain ⟨cols, hcols⟩ := Option.isSome_iff_exists.1 ‹_›
    exact .inr (.inr (.inr ⟨name, cols, rfl, hcols, rfl⟩))

theorem apply_createTable {name : String} {columns : List Column}
    (hty : ∀ t ∈ enumTypes columns, s.hasType t = false) (h : s.hasRelation name = false)
    (hrow : name ∉ s.types ++ enumTypes columns) :
    (Op.createTable name columns).apply s =
      .ok { s with
        tables := s.tables ++ [(name, columns)],
        types := s.types ++ enumTypes columns } := by
  have : (enumTypes columns).find? s.hasType = none :=
    List.find?_eq_none.2 fun t ht => by simp [hty t ht]
  simp [apply, h, this, hrow]

/-- `create_table` raises on the first of its ENUM types that is taken, before the table. -/
theorem apply_createTable_of_find? {name t : String} {columns : List Column}
    (h : (enumTypes columns).find? s.hasType = some t) :
    (Op.createTable name columns).apply s = .error (.duplicateObject t) := by
  simp [apply, h]

theorem apply_createIndex {name table : String} {cols : List Column}
    (ht : s.columnsOf table = some cols) {columns : List String}
    (hc : ∀ c ∈ columns, c ∈ cols.map Column.name) (hn : s.hasRelation name = false)
    (unique : Bool) :
    (Op.createIndex name table columns unique).apply s =
      .ok { s with indexes := s.indexes ++ [⟨name, table, columns, unique⟩] } := by
  have : columns.find? (fun c => !(cols.any fun col => col.name == c)) = none :=
    List.find?_eq_none.2 fun c hc' => by simpa using hc c hc'
  simp [apply, ht, hn, this]

theorem apply_dropIndex {name : String} (h : s.hasIndex name = true) (table : String) :
    (Op.dropIndex name table).apply s =
      .ok { s with indexes := s.indexes.filter fun ix => ix.name != name } := by
  simp [apply, h]

theorem apply_dropTable {name : String} {cols : List Column} (h : s.columnsOf name = some cols) :
    (Op.dropTable name).apply s =
      .ok { s with
        tables := s.tables.filter fun t => t.1 != name,
        indexes := s.indexes.filter fun ix => ix.table != name } := by
  simp [apply, h]

theorem types_of_apply_createTable {name : String} {columns : List Column}
    (h : (Op.createTable name columns).apply s = .ok s') :
    s'.types = s.types ++ enumTypes columns := by
  simp only [apply] at h
  split at h; · cases h
  split at h; · cases h
  split at h <;> cases h
  rfl

/-- No operation drops a type. -/
theorem types_subset_of_apply {op : Op} (h : op.apply s = .ok s') : s.types ⊆ s'.types := by
  rcases apply_eq_ok h with ⟨-, -, -, -, -, -, rfl⟩ | ⟨-, -, -, -, -, -, -, -, -, rfl⟩ |
    ⟨-, -, -, -, rfl⟩ | ⟨-, -, -, -, rfl⟩
  · exact List.subset_append_left _ _
  all_goals exact List.Subset.refl _

end Op

theorem runOps_cons_ok {op : Op} {s s' : Schema} (h : op.apply s = .ok s') (ops : List Op) :
    runOps s (op :: ops) = runOps s' ops := by
  simp [runOps, h]

theorem runOps_cons_error {op : Op} {s : Schema} {e : SchemaError} (h : op.apply s = .error e)
    (ops : List Op) : runOps s (op :: ops) = .error e := by
  simp [runOps, h]

/-- A run that succeeds ran its first operation successfully, and the rest from there. -/
theorem runOps_cons_eq_ok {op : Op} {ops : List Op} {s s' : Schema}
    (h : runOps s (op :: ops) = .ok s') :
    ∃ s₁, op.apply s = .ok s₁ ∧ runOps s₁ ops = .ok s' := by
  simp only [runOps] at h
  split at h
  · exact ⟨_, ‹_›, h⟩
  · cases h

theorem runOps_append_ok {s s' : Schema} :
    ∀ {ops : List Op}, runOps s ops = .ok s' → ∀ ops', runOps s (ops ++ ops') = runOps s' ops'
  | [], h, _ => by cases h; rfl
  | op :: ops, h, ops' => by
    obtain ⟨s₁, h₁, h⟩ := runOps_cons_eq_ok h
    rw [List.cons_append, runOps_cons_ok h₁, runOps_append_ok h]

/-- No run drops a type. -/
theorem runOps_types_subset {s s' : Schema} :
    ∀ {ops : List Op}, runOps s ops = .ok s' → s.types ⊆ s'.types
  | [], h => by cases h; exact List.Subset.refl _
  | _ :: _, h =>
    let ⟨_, h₁, h⟩ := runOps_cons_eq_ok h
    List.Subset.trans (Op.types_subset_of_apply h₁) (runOps_types_subset h)

/-- Dropping the table that `createTable` has just added gives the tables and the indexes back,
whatever the types: no index of a well-formed schema is on a table it does not have. -/
theorem Schema.WellFormed.dropTable_createTable {s : Schema} (hwf : s.WellFormed) {name : String}
    (h : s.columnsOf name = none) (columns : List Column) (types : List String) :
    (Op.dropTable name).apply { s with tables := s.tables ++ [(name, columns)], types := types } =
      .ok { s with types := types } := by
  have hcols : ({ s with tables := s.tables ++ [(name, columns)], types := types } :
      Schema).columnsOf name = some columns := by
    rw [Schema.columnsOf_append, h]; simp
  have htables : s.tables.filter (fun t => t.1 != name) = s.tables :=
    List.filter_eq_self.2 fun t ht => by simpa using Schema.columnsOf_eq_none.1 h t ht
  have hindexes : s.indexes.filter (fun ix => ix.table != name) = s.indexes :=
    List.filter_eq_self.2 fun ix hix => by
      obtain ⟨cols, hcols, -⟩ := hwf.columns ix hix
      simpa using fun he : ix.table = name => by rw [he, h] at hcols; cases hcols
  rw [Op.apply_dropTable hcols]
  simp only [List.filter_append, htables, hindexes]
  simp

/-! ## The round trip -/

theorem runOps_createIndexes {s : Schema} {table : String} {cols : List Column}
    (ht : s.columnsOf table = some cols) :
    ∀ ixs : List Index,
      (∀ ix ∈ ixs, ix.table = table ∧ ∀ c ∈ ix.columns, c ∈ cols.map Column.name) →
      (ixs.map Index.name).Nodup → (∀ ix ∈ ixs, s.hasRelation ix.name = false) →
      runOps s (ixs.map fun ix => .createIndex ix.name ix.table ix.columns ix.unique) =
        .ok { s with indexes := s.indexes ++ ixs }
  | [], _, _, _ => by simp [runOps]
  | ix :: ixs, hix, hnd, hfresh => by
    obtain ⟨htab, hc⟩ := hix ix (List.mem_cons_self _ _)
    rw [List.map_cons, runOps_cons_ok (Op.apply_createIndex (htab ▸ ht) hc
      (hfresh ix (List.mem_cons_self _ _)) ix.unique)]
    rw [List.map_cons, List.nodup_cons] at hnd
    have := runOps_createIndexes (s := { s with indexes := s.indexes ++ [ix] }) ht ixs
      (fun i hi => hix i (List.mem_cons_of_mem _ hi)) hnd.2 fun i hi => by
        have hne : ix.name ≠ i.name := fun h => hnd.1 (h ▸ List.mem_map_of_mem _ hi)
        rw [Schema.hasRelation_append, hfresh i (List.mem_cons_of_mem _ hi)]
        simpa using hne
    simpa using this

theorem runOps_dropIndexes {s : Schema} (table : String) :
    ∀ names : List String, names.Nodup → (∀ n ∈ names, s.hasIndex n = true) →
      runOps s (names.map fun n => .dropIndex n table) =
        .ok { s with indexes := s.indexes.filter fun ix => ix.name ∉ names }
  | [], _, _ => by simp [runOps]
  | n :: names, hnd, hhas => by
    rw [List.nodup_cons] at hnd
    rw [List.map_cons, runOps_cons_ok (Op.apply_dropIndex (hhas n (List.mem_cons_self _ _)) table)]
    have hhas' : ∀ m ∈ names,
        ({ s with indexes := s.indexes.filter fun ix => ix.name != n } : Schema).hasIndex m := by
      intro m hm
      obtain ⟨ix, hix, hname⟩ := List.any_eq_true.1 (hhas m (List.mem_cons_of_mem _ hm))
      have hmn : m ≠ n := fun h => hnd.1 (h ▸ hm)
      refine List.any_eq_true.2 ⟨ix, List.mem_filter.2 ⟨hix, ?_⟩, hname⟩
      simp only [beq_iff_eq] at hname
      simpa [hname] using hmn
    rw [runOps_dropIndexes table names hnd.2 hhas', List.filter_filter]
    congr 3; funext ix; rw [Bool.eq_iff_iff]; simp [and_comm]

theorem upgrade_eq : upgrade = .createTable "audit_logs" auditLogsColumns ::
    (auditLogsIndexedColumns.map auditLogsIndex).map fun ix =>
      .createIndex ix.name ix.table ix.columns ix.unique := rfl

theorem downgrade_eq : downgrade =
    ((auditLogsIndexedColumns.reverse.map fun c => (auditLogsIndex c).name).map fun n =>
      Op.dropIndex n "audit_logs") ++ [.dropTable "audit_logs"] := rfl

/-- On a schema where the name `audit_logs` is free among the relations and the types, the names
of its indexes among the relations, and `auditlogs_action` among the types, `upgrade` adds the
table with its seven columns, the six single-column indexes on it and the type, changing nothing
else. -/
theorem runOps_upgrade {s : Schema} (ht : s.hasRelation "audit_logs" = false)
    (htt : s.hasType "audit_logs" = false) (hty : s.hasType "auditlogs_action" = false)
    (hi : ∀ c ∈ auditLogsIndexedColumns, s.hasRelation (auditLogsIndex c).name = false) :
    runOps s upgrade = .ok ⟨s.tables ++ [("audit_logs", auditLogsColumns)],
      s.indexes ++ auditLogsIndexedColumns.map auditLogsIndex,
      s.types ++ ["auditlogs_action"]⟩ := by
  have htab := (Schema.hasRelation_eq_false.1 ht).1
  have hrow : "audit_logs" ∉ s.types ++ enumTypes auditLogsColumns := by
    simp only [Schema.hasType, Bool.or_eq_false_iff, decide_eq_false_iff_not] at htt
    simpa [enumTypes_auditLogsColumns] using htt.1
  have hne : ∀ c ∈ auditLogsIndexedColumns, "audit_logs" ≠ (auditLogsIndex c).name := by decide
  rw [upgrade_eq, runOps_cons_ok (Op.apply_createTable
    (by simpa [enumTypes_auditLogsColumns] using hty) ht hrow), enumTypes_auditLogsColumns]
  refine runOps_createIndexes (by rw [Schema.columnsOf_append, htab]; rfl) _ (by decide)
    (by decide) (List.forall_mem_map.2 fun c hc => ?_)
  obtain ⟨hcol, hidx⟩ := Schema.hasRelation_eq_false.1 (hi c hc)
  rw [Schema.hasRelation_eq_false, Schema.columnsOf_append, hcol, if_neg (hne c hc)]
  exact ⟨rfl, hidx⟩

/-- `downgrade` on a well-formed schema extended by the table `audit_logs` and its six indexes
gives the tables and the indexes back, whatever the types. -/
theorem runOps_downgrade {s : Schema} (hwf : s.WellFormed) (ht : s.columnsOf "audit_logs" = none)
    (hi : ∀ c ∈ auditLogsIndexedColumns, s.hasIndex (auditLogsIndex c).name = false)
    (types : List String) :
    runOps ⟨s.tables ++ [("audit_logs", auditLogsColumns)],
        s.indexes ++ auditLogsIndexedColumns.map auditLogsIndex, types⟩ downgrade =
      .ok { s with types := types } := by
  have hnames : ∀ ix ∈ s.indexes,
      ix.name ∉ auditLogsIndexedColumns.reverse.map fun c => (auditLogsIndex c).name := by
    intro ix hix hm
    obtain ⟨c, hc, hn⟩ := List.mem_map.1 hm
    exact Schema.hasIndex_eq_false.1 (hi c (List.mem_reverse.1 hc)) ix hix hn.symm
  have hidx : (s.indexes ++ auditLogsIndexedColumns.map auditLogsIndex).filter
      (fun ix => decide (ix.name ∉ auditLogsIndexedColumns.reverse.map fun c =>
        (auditLogsIndex c).name)) = s.indexes := by
    rw [List.filter_append, List.filter_eq_self.2 fun ix hix => by simpa using hnames ix hix,
      List.filter_eq_nil_iff.2 (by decide), List.append_nil]
  rw [downgrade_eq,
    runOps_append_ok (runOps_dropIndexes "audit_logs" _ (by decide) fun n hn => ?_)]
  · dsimp only
    rw [hidx, runOps_cons_ok (hwf.dropTable_createTable ht auditLogsColumns _)]
    rfl
  · obtain ⟨c, hc, rfl⟩ := List.mem_map.1 hn
    exact List.any_eq_true.2 ⟨auditLogsIndex c,
      List.mem_append_right _ (List.mem_map_of_mem _ (List.mem_reverse.1 hc)), by simp⟩

/-- On a well-formed schema where the name `audit_logs` is free among the relations and the
types, the names of its indexes among the relations, and `auditlogs_action` among the types,
`upgrade` adds the table with its seven columns, the six single-column indexes on it and the
type, changing nothing else; `downgrade` then gives the tables and the indexes back, and keeps
the type. -/
theorem upgrade_downgrade {s : Schema} (hwf : s.WellFormed)
    (ht : s.hasRelation "audit_logs" = false) (htt : s.hasType "audit_logs" = false)
    (hty : s.hasType "auditlogs_action" = false)
    (hi : ∀ c ∈ auditLogsIndexedColumns, s.hasRelation (auditLogsIndex c).name = false) :
    runOps s upgrade = .ok ⟨s.tables ++ [("audit_logs", auditLogsColumns)],
      s.indexes ++ auditLogsIndexedColumns.map auditLogsIndex,
      s.types ++ ["auditlogs_action"]⟩ ∧
    runOps ⟨s.tables ++ [("audit_logs", auditLogsColumns)],
        s.indexes ++ auditLogsIndexedColumns.map auditLogsIndex,
        s.types ++ ["auditlogs_action"]⟩
      downgrade = .ok { s with types := s.types ++ ["auditlogs_action"] } :=
  ⟨runOps_upgrade ht htt hty hi, runOps_downgrade hwf (Schema.hasRelation_eq_false.1 ht).1
    (fun c hc => (Schema.hasRelation_eq_false.1 (hi c hc)).2) _⟩

theorem upgrade_downgrade_sessions :
    ∃ s : Schema, s = ⟨[("sessions", [⟨"id", .string 36, false, none⟩])],
        [⟨"ix_sessions_id", "sessions", ["id"], true⟩], []⟩ ∧
      runOps s upgrade = .ok ⟨s.tables ++ [("audit_logs", auditLogsColumns)],
        s.indexes ++ auditLogsIndexedColumns.map auditLogsIndex,
        s.types ++ ["auditlogs_action"]⟩ ∧
      runOps ⟨s.tables ++ [("audit_logs", auditLogsColumns)],
          s.indexes ++ auditLogsIndexedColumns.map auditLogsIndex,
          s.types ++ ["auditlogs_action"]⟩
        downgrade = .ok { s with types := s.types ++ ["auditlogs_action"] } :=
  ⟨_, rfl, upgrade_downgrade
    ⟨by decide, by decide, fun ix hix => by
      rw [List.mem_singleton.1 hix]; exact ⟨_, rfl, by decide⟩, List.nodup_nil⟩
    rfl rfl rfl (by decide)⟩

/-! ## Upgrading again -/

/-- `upgrade` on a schema that has the type `auditlogs_action` raises `DuplicateObject` at its
first operation, whatever else the schema holds. -/
theorem upgrade_of_type_mem {s : Schema} (h : "auditlogs_action" ∈ s.types) :
    runOps s upgrade = .error (.duplicateObject "auditlogs_action") := by
  rw [upgrade_eq]
  exact runOps_cons_error (Op.apply_createTable_of_find? (by
    simp [enumTypes_auditLogsColumns, Schema.hasType, h])) _

/-- A successful `upgrade` leaves the type `auditlogs_action`. -/
theorem type_mem_of_upgrade {s s' : Schema} (h : runOps s upgrade = .ok s') :
    "auditlogs_action" ∈ s'.types := by
  rw [upgrade_eq] at h
  obtain ⟨s₁, h₁, h⟩ := runOps_cons_eq_ok h
  refine runOps_types_subset h ?_
  rw [Op.types_of_apply_createTable h₁, enumTypes_auditLogsColumns]
  exact List.mem_append_right _ (List.mem_singleton_self _)

/-- `downgrade` does not drop the type `auditlogs_action` that `upgrade` creates, so `upgrade`
after a successful `upgrade` and `downgrade` raises `DuplicateObject` on it. -/
theorem upgrade_downgrade_upgrade {s s₁ s₂ : Schema} (h₁ : runOps s upgrade = .ok s₁)
    (h₂ : runOps s₁ downgrade = .ok s₂) :
    runOps s₂ upgrade = .error (.duplicateObject "auditlogs_action") :=
  upgrade_of_type_mem (runOps_types_subset h₂ (type_mem_of_upgrade h₁))

theorem upgrade_downgrade_upgrade_empty :
    ∃ s₁ s₂, runOps ⟨[], [], []⟩ upgrade = .ok s₁ ∧
      runOps s₁ downgrade = .ok s₂ ∧
      runOps s₂ upgrade = .error (.duplicateObject "auditlogs_action") :=
  ⟨_, _, rfl, rfl, upgrade_downgrade_upgrade (s := ⟨[], [], []⟩) rfl rfl⟩

end AiBackend.Audit
