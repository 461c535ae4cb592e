import Mathlib.Data.List.Basic
import Mathlib.Data.List.Pairwise

/-! # Tables of rows

A table is the list of its rows in insertion order. A unique index is a
statement about pairs of rows in its scope (`Foundation.UniqueOn`), so a partial
index is an index with a smaller scope. An update rewrites the rows that its
`WHERE` clause selects (`Foundation.updateWhere`) and reports how many there
were (`Foundation.rowcount`).
-/

namespace Foundation

variable {ρ κ : Type*}

/-- Rows in `scope` carry pairwise different keys. -/
def UniqueOn (scope : ρ → Bool) (key : ρ → κ) (rows : List ρ) : Prop :=
  rows.Pairwise fun first second => scope first → scope second → key first ≠ key second

/-- Rewrite the rows selected by `scope`, keeping every row in its place. -/
def updateWhere (scope : ρ → Bool) (change : ρ → ρ) (rows : List ρ) : List ρ :=
  rows.map fun row => if scope row then change row else row

/-- The number of rows an update with this `WHERE` clause rewrites. -/
def rowcount (scope : ρ → Bool) (rows : List ρ) : Nat := rows.countP scope

/-- The empty table has no two rows with one key. -/
theorem UniqueOn.nil (scope : ρ → Bool) (key : ρ → κ) : UniqueOn scope key [] :=
  List.Pairwise.nil

/-- A row in scope is determined by its key. -/
theorem UniqueOn.eq_of_mem {scope : ρ → Bool} {key : ρ → κ} {rows : List ρ}
    (unique : UniqueOn scope key rows) {first second : ρ} (firstMem : first ∈ rows)
    (secondMem : second ∈ rows) (firstScope : scope first) (secondScope : scope second)
    (same : key first = key second) : first = second := by
  by_contra different
  have symmetric : Std.Symm fun a b : ρ => scope a → scope b → key a ≠ key b :=
    ⟨fun _ _ apart inScope alsoInScope => (apart alsoInScope inScope).symm⟩
  exact List.Pairwise.forall unique firstMem secondMem different firstScope secondScope same

/-- Appending a row whose key is new in the scope keeps the index unique. -/
theorem UniqueOn.append_singleton {scope : ρ → Bool} {key : ρ → κ} {rows : List ρ}
    (unique : UniqueOn scope key rows) (row : ρ)
    (fresh : ∀ old ∈ rows, scope old → scope row → key old ≠ key row) :
    UniqueOn scope key (rows ++ [row]) := by
  refine List.pairwise_append.mpr ⟨unique, List.pairwise_singleton _ _, ?_⟩
  intro old member new newMember
  obtain rfl := List.mem_singleton.mp newMember
  exact fresh old member

/-- A rewriting that keeps keys and enlarges no scope keeps the index unique. -/
theorem UniqueOn.updateWhere {scope : ρ → Bool} {key : ρ → κ} {rows : List ρ}
    (unique : UniqueOn scope key rows) (selected : ρ → Bool) (change : ρ → ρ)
    (keepsKey : ∀ row, key (change row) = key row)
    (keepsScope : ∀ row, scope (change row) → scope row) :
    UniqueOn scope key (updateWhere selected change rows) := by
  have rewritten : ∀ row, key (if selected row then change row else row) = key row ∧
      (scope (if selected row then change row else row) → scope row) := by
    intro row
    by_cases chosen : selected row
    · simp only [chosen, ↓reduceIte]
      exact ⟨keepsKey row, keepsScope row⟩
    · simp only [chosen, Bool.false_eq_true, ↓reduceIte, imp_self, and_self]
  refine List.Pairwise.map _ ?_ unique
  intro first second apart firstScope secondScope
  rw [(rewritten first).1, (rewritten second).1]
  exact apart ((rewritten first).2 firstScope) ((rewritten second).2 secondScope)

/-- A row after an update is an old one, changed if it was selected. -/
theorem mem_updateWhere {selected : ρ → Bool} {change : ρ → ρ} {rows : List ρ} {row : ρ} :
    row ∈ updateWhere selected change rows ↔
      ∃ old ∈ rows, (if selected old then change old else old) = row :=
  List.mem_map

/-- An unselected row survives an update. -/
theorem mem_updateWhere_of_unselected {selected : ρ → Bool} {change : ρ → ρ} {rows : List ρ}
    {row : ρ} (member : row ∈ rows) (unselected : selected row = false) :
    row ∈ updateWhere selected change rows :=
  mem_updateWhere.mpr ⟨row, member, by simp only [unselected, Bool.false_eq_true, ↓reduceIte]⟩

/-- A selected row is present in its rewritten form. -/
theorem mem_updateWhere_of_selected {selected : ρ → Bool} {change : ρ → ρ} {rows : List ρ}
    {row : ρ} (member : row ∈ rows) (chosen : selected row) :
    change row ∈ updateWhere selected change rows :=
  mem_updateWhere.mpr ⟨row, member, by simp only [chosen, ↓reduceIte]⟩

/-- An update that keeps a column. -/
theorem map_updateWhere {selected : ρ → Bool} {change : ρ → ρ} {column : ρ → κ} (rows : List ρ)
    (keeps : ∀ row, column (change row) = column row) :
    (updateWhere selected change rows).map column = rows.map column := by
  unfold updateWhere
  rw [List.map_map]
  apply List.map_congr_left
  intro row _
  rw [Function.comp_apply]
  split
  · exact keeps row
  · rfl

/-- An update that selects nothing changes nothing. -/
theorem updateWhere_eq_self {selected : ρ → Bool} {change : ρ → ρ} {rows : List ρ}
    (none : ∀ row ∈ rows, selected row = false) : updateWhere selected change rows = rows := by
  induction rows with
  | nil => rfl
  | cons row rest ih =>
      have tail := ih fun other member => none other (List.mem_cons_of_mem _ member)
      unfold updateWhere at tail ⊢
      simp only [List.map_cons, none row (List.mem_cons_self ..), Bool.false_eq_true, ↓reduceIte,
        tail]

/-- The rows outside the reach of an update stay as they are and in order. -/
theorem filter_updateWhere {selected : ρ → Bool} {change : ρ → ρ} {rows : List ρ}
    (keep : ρ → Bool) (outside : ∀ row ∈ rows, selected row → keep row = false ∧
      keep (change row) = false) :
    (updateWhere selected change rows).filter keep = rows.filter keep := by
  induction rows with
  | nil => rfl
  | cons row rest ih =>
      have restOutside := ih fun other member => outside other (List.mem_cons_of_mem _ member)
      unfold updateWhere at restOutside ⊢
      by_cases chosen : selected row
      · obtain ⟨before, after⟩ := outside row (List.mem_cons_self ..) chosen
        simp only [List.map_cons, chosen, ↓reduceIte, List.filter_cons, before, after,
          Bool.false_eq_true]
        exact restOutside
      · simp only [List.map_cons, chosen, Bool.false_eq_true, ↓reduceIte, List.filter_cons]
        rw [restOutside]

/-- Under a unique index an update by key rewrites exactly one row or none. -/
theorem rowcount_eq_one_iff {scope : ρ → Bool} {key : ρ → κ} {rows : List ρ}
    (unique : UniqueOn scope key rows) (wanted : κ) (selected : ρ → Bool)
    (byKey : ∀ row, selected row → scope row ∧ key row = wanted) :
    rowcount selected rows = 1 ↔ ∃ row ∈ rows, selected row := by
  unfold rowcount
  constructor
  · intro one
    exact List.countP_pos_iff.mp (one ▸ Nat.one_pos)
  · rintro ⟨row, member, chosen⟩
    have atMostOne : rows.countP selected ≤ 1 := by
      rw [List.countP_eq_length_filter]
      have apart : (rows.filter selected).Pairwise fun _ _ => False := by
        refine List.Pairwise.imp_of_mem ?_ (unique.filter selected)
        intro first second firstMem secondMem different
        have firstKey := byKey first (List.mem_filter.mp firstMem).2
        have secondKey := byKey second (List.mem_filter.mp secondMem).2
        exact different firstKey.1 secondKey.1 (firstKey.2.trans secondKey.2.symm)
      match rows.filter selected, apart with
      | [], _ => exact Nat.zero_le 1
      | [_], _ => exact Nat.le_refl 1
      | first :: second :: rest, apart =>
          exact (List.rel_of_pairwise_cons apart (List.mem_cons_self ..)).elim
    have present : 0 < rows.countP selected := List.countP_pos_iff.mpr ⟨row, member, chosen⟩
    omega

/-- An update by key that did not rewrite one row selects none. -/
theorem unselected_of_rowcount {scope : ρ → Bool} {key : ρ → κ} {rows : List ρ}
    (unique : UniqueOn scope key rows) (wanted : κ) (selected : ρ → Bool)
    (byKey : ∀ row, selected row → scope row ∧ key row = wanted)
    (missed : rowcount selected rows ≠ 1) : ∀ row ∈ rows, selected row = false := by
  intro row member
  by_contra chosen
  exact missed ((rowcount_eq_one_iff unique wanted selected byKey).mpr
    ⟨row, member, Bool.not_eq_false _ ▸ chosen⟩)

/-- An update of represented rows. -/
theorem updateWhere_map {τ : Type*} {represent : τ → ρ} {scope : ρ → Bool} {change : ρ → ρ}
    {selected : τ → Bool} {assign : τ → τ} (scopes : ∀ row, scope (represent row) = selected row)
    (changes : ∀ row, change (represent row) = represent (assign row)) (rows : List τ) :
    updateWhere scope change (rows.map represent) =
      (updateWhere selected assign rows).map represent := by
  unfold updateWhere
  rw [List.map_map, List.map_map]
  apply List.map_congr_left
  intro row _
  rw [Function.comp_apply, Function.comp_apply, scopes row]
  split
  · exact changes row
  · rfl

/-- A condition on represented rows that agrees with one on what they represent selects
as many. -/
theorem rowcount_map {τ : Type*} {represent : τ → ρ} {scope : ρ → Bool} {selected : τ → Bool}
    (scopes : ∀ row, scope (represent row) = selected row) (rows : List τ) :
    rowcount scope (rows.map represent) = rowcount selected rows := by
  unfold rowcount
  rw [List.countP_map]
  exact List.countP_congr fun row _ => by rw [Function.comp_apply, scopes row]

/-- A table whose integer ids the database hands out, each larger than all before. -/
structure Sequenced (ρ : Type*) (id : ρ → Nat) where
  rows : List ρ
  last : Nat
  ids : UniqueOn (fun _ => true) id rows
  upToLast : ∀ row ∈ rows, id row ≤ last

namespace Sequenced

variable {ρ : Type*} {id : ρ → Nat}

def empty : Sequenced ρ id := ⟨[], 0, .nil _ _, fun _ absent => by cases absent⟩

/-- Append the row that is made for the next id. -/
def insert (table : Sequenced ρ id) (row : ρ) (next : id row = table.last + 1) :
    Sequenced ρ id where
  rows := table.rows ++ [row]
  last := table.last + 1
  ids := table.ids.append_singleton row fun old member _ _ same =>
    absurd (table.upToLast old member) (by rw [same, next]; exact Nat.not_succ_le_self _)
  upToLast := by
    intro other member
    rcases List.mem_append.mp member with old | new
    · exact Nat.le_succ_of_le (table.upToLast other old)
    · obtain rfl := List.mem_singleton.mp new
      exact Nat.le_of_eq next

/-- Rewrite the selected rows under their ids. -/
def update (table : Sequenced ρ id) (selected : ρ → Bool) (change : ρ → ρ)
    (keepsId : ∀ row, id (change row) = id row) : Sequenced ρ id where
  rows := updateWhere selected change table.rows
  last := table.last
  ids := table.ids.updateWhere selected change keepsId fun _ inScope => inScope
  upToLast := by
    intro row member
    obtain ⟨old, present, rfl⟩ := mem_updateWhere.mp member
    split
    next =>
      rw [keepsId old]
      exact table.upToLast old present
    next => exact table.upToLast old present

/-- An update that selects nothing leaves the table as it was. -/
theorem update_eq_self {table : Sequenced ρ id} {selected : ρ → Bool} {change : ρ → ρ}
    {keepsId : ∀ row, id (change row) = id row}
    (none : ∀ row ∈ table.rows, selected row = false) : table.update selected change keepsId =
    table := by
  have rows : updateWhere selected change table.rows = table.rows := updateWhere_eq_self none
  cases table
  simp only [update, mk.injEq, and_true]
  exact rows

end Sequenced

end Foundation
