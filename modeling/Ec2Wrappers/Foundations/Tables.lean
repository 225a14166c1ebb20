import Ec2Wrappers.Foundations.Python
import Mathlib.Data.List.Nodup

/-!
# Tables with a primary key, and transactions

A `Table key` is a list of rows whose keys are pairwise different, the order being the order of
insertion. The statements are `find` (a `SELECT` on the key), `insertOrReplace`, `insert`, which
fails when the key is taken, `insertOrIgnore`, and `delete`.

A `Connection` holds the committed database and, while a transaction is open, its working copy.
`transaction` is `BEGIN`, a body and `COMMIT` with no handler around them: when the body raises, the
transaction stays open, and `BEGIN` inside an open transaction is an error. `Connection.close` is
the end of the process, which rolls an open transaction back.
-/

set_option autoImplicit false
set_option relaxedAutoImplicit false

namespace Ec2Wrappers.Foundations

/-! ### Rows and their keys -/

/-- The row is the last one with its key. -/
def LastWithKey {Row Key : Type} (key : Row → Key) (rows : List Row) (row : Row) : Prop :=
  ∃ before after, rows = before ++ row :: after ∧ key row ∉ after.map key

section LastWithKey

variable {Row Key : Type} {key : Row → Key} {rows : List Row} {row : Row}

@[simp] theorem lastWithKey_nil : ¬ LastWithKey key [] row :=
  fun ⟨_, _, hsplit, _⟩ ↦ absurd hsplit (by simp)

theorem LastWithKey.mem (hlast : LastWithKey key rows row) : row ∈ rows := by
  obtain ⟨before, after, rfl, -⟩ := hlast
  simp

/-- With one row more in front. -/
theorem lastWithKey_cons {head : Row} : LastWithKey key (head :: rows) row ↔
    LastWithKey key rows row ∨ row = head ∧ key row ∉ rows.map key := by
  constructor
  · rintro ⟨before, after, hsplit, hlast⟩
    cases before with
    | nil =>
      obtain ⟨rfl, rfl⟩ := List.cons.inj hsplit
      exact .inr ⟨rfl, hlast⟩
    | cons first between =>
      exact .inl ⟨between, after, (List.cons.inj hsplit).2, hlast⟩
  · rintro (⟨before, after, rfl, hlast⟩ | ⟨rfl, hlast⟩)
    · exact ⟨head :: before, after, rfl, hlast⟩
    · exact ⟨[], rows, rfl, hlast⟩

/-- A row is the last one with its key when no other row has the key. -/
theorem lastWithKey_of_unique (hrow : row ∈ rows)
    (hunique : ∀ other ∈ rows, key other = key row → other = row) : LastWithKey key rows row := by
  induction rows with
  | nil => exact absurd hrow List.not_mem_nil
  | cons head rest ih =>
    obtain ⟨hhead, hrest⟩ := List.forall_mem_cons.mp hunique
    rw [lastWithKey_cons]
    by_cases hlater : row ∈ rest
    · exact .inl (ih hlater hrest)
    · refine .inr ⟨(List.mem_cons.mp hrow).resolve_right hlater, fun hkey ↦ hlater ?_⟩
      obtain ⟨other, hother, hsame⟩ := List.mem_map.mp hkey
      exact hrest other hother hsame ▸ hother

/-- Rows in front do not matter to a row that comes behind them. -/
theorem LastWithKey.append_left (hlast : LastWithKey key rows row) (more : List Row) :
    LastWithKey key (more ++ rows) row := by
  obtain ⟨before, after, rfl, hafter⟩ := hlast
  exact ⟨more ++ before, after, (List.append_assoc _ _ _).symm, hafter⟩

/-- Rows with other keys behind do not matter. -/
theorem lastWithKey_append_iff {more : List Row} (hmore : key row ∉ more.map key) :
    LastWithKey key (rows ++ more) row ↔ LastWithKey key rows row := by
  induction rows with
  | nil =>
    refine iff_of_false (fun hlast ↦ hmore ?_) lastWithKey_nil
    exact List.mem_map_of_mem hlast.mem
  | cons head rest ih =>
    rw [List.cons_append, lastWithKey_cons, lastWithKey_cons, ih, List.map_append, List.mem_append,
      or_iff_left hmore]

end LastWithKey

/-! ### Tables -/

/-- The rows of a table with a primary key. -/
structure Table {Row Key : Type} (key : Row → Key) where
  rows : List Row
  keys_nodup : (rows.map key).Nodup
  deriving DecidableEq

namespace Table

variable {Row Key : Type} {key : Row → Key}

/-- The table with no row. -/
def empty : Table key := ⟨[], List.nodup_nil⟩

/-- `DELETE FROM table WHERE condition`. -/
def delete (table : Table key) (condition : Row → Bool) : Table key where
  rows := table.rows.filter fun row ↦ !condition row
  keys_nodup := table.keys_nodup.sublist (List.filter_sublist.map key)

@[simp] theorem mem_delete (table : Table key) (condition : Row → Bool) (row : Row) :
    row ∈ (table.delete condition).rows ↔ row ∈ table.rows ∧ condition row = false := by
  simp [delete]

/-- Rows with the same key are the same. -/
theorem eq_of_key_eq (table : Table key) {first second : Row} (hfirst : first ∈ table.rows)
    (hsecond : second ∈ table.rows) (hkey : key first = key second) : first = second :=
  List.inj_on_of_nodup_map table.keys_nodup hfirst hsecond hkey

variable [DecidableEq Key]

/-- `SELECT … FROM table WHERE key = ?`. -/
def find (table : Table key) (sought : Key) : Option Row :=
  table.rows.find? fun row ↦ key row = sought

/-- `INSERT OR REPLACE INTO table`. -/
def insertOrReplace (table : Table key) (row : Row) : Table key where
  rows := table.rows.filter (fun other ↦ key other ≠ key row) ++ [row]
  keys_nodup := by
    rw [List.map_append, List.map_singleton, List.nodup_append]
    refine ⟨table.keys_nodup.sublist (List.filter_sublist.map key), List.nodup_singleton _, ?_⟩
    intro taken htaken new hnew
    obtain ⟨other, hother, rfl⟩ := List.mem_map.mp htaken
    rw [List.mem_singleton] at hnew
    simpa [hnew] using (List.mem_filter.mp hother).2

/-- `INSERT INTO table`; nothing when the key is taken. -/
def insert (table : Table key) (row : Row) : Option (Table key) :=
  if htaken : key row ∈ table.rows.map key then none
  else some
    { rows := table.rows ++ [row]
      keys_nodup := by
        rw [List.map_append, List.map_singleton, List.nodup_append]
        refine ⟨table.keys_nodup, List.nodup_singleton _, ?_⟩
        intro taken hmem new hnew hsame
        rw [List.mem_singleton] at hnew
        exact htaken (hnew ▸ hsame ▸ hmem) }

/-- `INSERT OR IGNORE INTO table`. -/
def insertOrIgnore (table : Table key) (row : Row) : Table key := (table.insert row).getD table

theorem find_eq_some_iff (table : Table key) (sought : Key) (row : Row) :
    table.find sought = some row ↔ row ∈ table.rows ∧ key row = sought := by
  constructor
  · intro hfind
    exact ⟨List.mem_of_find?_eq_some hfind, by simpa using List.find?_some hfind⟩
  · rintro ⟨hmem, hkey⟩
    cases hfind : table.find sought with
    | none =>
      have hnone := List.find?_eq_none.mp hfind row hmem
      simp [hkey] at hnone
    | some found =>
      have hfound := List.mem_of_find?_eq_some hfind
      have hsame : key found = sought := by simpa using List.find?_some hfind
      rw [table.eq_of_key_eq hfound hmem (hsame.trans hkey.symm)]

theorem find_eq_none_iff (table : Table key) (sought : Key) :
    table.find sought = none ↔ ∀ row ∈ table.rows, key row ≠ sought := by
  simp [find, List.find?_eq_none]

@[simp] theorem mem_insertOrReplace (table : Table key) (row other : Row) :
    other ∈ (table.insertOrReplace row).rows ↔
      (other ∈ table.rows ∧ key other ≠ key row) ∨ other = row := by
  simp [insertOrReplace]

/-- A table into which some row has been put has a row. -/
theorem rows_ne_nil_of_foldl (table : Table key) {rows : List Row} (hrows : rows ≠ []) :
    (rows.foldl insertOrReplace table).rows ≠ [] := by
  obtain rfl | ⟨before, last, rfl⟩ := List.eq_nil_or_concat' rows
  · exact absurd rfl hrows
  · rw [List.foldl_append]
    exact List.ne_nil_of_mem ((mem_insertOrReplace _ _ last).mpr (Or.inr rfl))

/-- Of rows put into a table, those are left that are the last ones with their keys. -/
theorem mem_foldl_insertOrReplace (table : Table key) {rows : List Row} {row : Row} :
    row ∈ (rows.foldl insertOrReplace table).rows ↔
      LastWithKey key rows row ∨ row ∈ table.rows ∧ key row ∉ rows.map key := by
  induction rows generalizing table with
  | nil => simp
  | cons head rest ih =>
    rw [List.foldl_cons, ih, mem_insertOrReplace, lastWithKey_cons, List.map_cons, List.mem_cons,
      not_or]
    constructor
    · rintro (hlast | ⟨⟨hold, hother⟩ | rfl, hrest⟩)
      · exact .inl (.inl hlast)
      · exact .inr ⟨hold, hother, hrest⟩
      · exact .inl (.inr ⟨rfl, hrest⟩)
    · rintro ((hlast | ⟨rfl, hrest⟩) | ⟨hold, hother, hrest⟩)
      · exact .inl hlast
      · exact .inr ⟨.inr rfl, hrest⟩
      · exact .inr ⟨.inl ⟨hold, hother⟩, hrest⟩

/-- Rows with new keys, pairwise different, are appended in their order. -/
theorem rows_foldl_insertOrReplace (table : Table key) {rows : List Row}
    (hnodup : ((table.rows ++ rows).map key).Nodup) :
    (rows.foldl insertOrReplace table).rows = table.rows ++ rows := by
  induction rows generalizing table with
  | nil => exact (List.append_nil _).symm
  | cons row rest ih =>
    have hnew : (table.insertOrReplace row).rows = table.rows ++ [row] := by
      refine congrArg (· ++ [row]) (List.filter_eq_self.mpr ?_)
      intro other hother
      have hdifferent := List.nodup_append.mp (List.map_append ▸ hnodup)
      simpa using hdifferent.2.2 _ (List.mem_map_of_mem hother) _ List.mem_cons_self
    have hsplit : table.rows ++ row :: rest = (table.insertOrReplace row).rows ++ rest := by
      rw [hnew, List.append_assoc, List.singleton_append]
    rw [List.foldl_cons, ih _ (hsplit ▸ hnodup), ← hsplit]

/-- After `INSERT OR REPLACE` the row is the one with its key, and the rows with other keys are as
before. -/
theorem find_insertOrReplace (table : Table key) (row : Row) (sought : Key) :
    (table.insertOrReplace row).find sought =
      if sought = key row then some row else table.find sought := by
  split_ifs with hsame
  · rw [find_eq_some_iff, mem_insertOrReplace]
    exact ⟨Or.inr rfl, hsame.symm⟩
  · cases hfind : table.find sought with
    | none =>
      rw [find_eq_none_iff] at hfind ⊢
      intro other hother
      rcases (mem_insertOrReplace table row other).mp hother with ⟨hmem, -⟩ | rfl
      · exact hfind other hmem
      · exact fun hkey ↦ hsame hkey.symm
    | some found =>
      rw [find_eq_some_iff] at hfind ⊢
      rw [mem_insertOrReplace]
      exact ⟨Or.inl ⟨hfind.1, fun hkey ↦ hsame (hfind.2.symm.trans hkey)⟩, hfind.2⟩

/-- `INSERT` succeeds when the key is free, and appends the row. -/
theorem insert_of_free (table : Table key) {row : Row} (hfree : key row ∉ table.rows.map key) :
    ∃ after, table.insert row = some after ∧ after.rows = table.rows ++ [row] := by
  rw [insert, dif_neg hfree]
  exact ⟨_, rfl, rfl⟩

/-- `INSERT OR IGNORE` of a free key appends the row. -/
theorem rows_insertOrIgnore (table : Table key) {row : Row}
    (hfree : ∀ other ∈ table.rows, key other ≠ key row) :
    (table.insertOrIgnore row).rows = table.rows ++ [row] := by
  have hnew : key row ∉ table.rows.map key := fun htaken ↦ by
    obtain ⟨other, hother, hkey⟩ := List.mem_map.mp htaken
    exact hfree other hother hkey
  obtain ⟨after, hinsert, hrows⟩ := table.insert_of_free hnew
  rw [insertOrIgnore, hinsert, Option.getD_some, hrows]

/-- `INSERT` that succeeds has met a free key. -/
theorem free_of_insert {table after : Table key} {row : Row}
    (hinsert : table.insert row = some after) : key row ∉ table.rows.map key := by
  unfold insert at hinsert
  split_ifs at hinsert with htaken
  exact htaken

/-- `INSERT` that succeeds appends the row. -/
theorem rows_of_insert {table after : Table key} {row : Row}
    (hinsert : table.insert row = some after) : after.rows = table.rows ++ [row] := by
  unfold insert at hinsert
  split_ifs at hinsert
  cases hinsert
  rfl

end Table

/-! ### Transactions -/

/-- A connection with explicit transactions: the committed database, and the working copy of the
open transaction if there is one. -/
structure Connection (Database : Type) where
  committed : Database
  working : Option Database
  deriving DecidableEq

/-- A connection with no open transaction. -/
def Connection.idle {Database : Type} (database : Database) : Connection Database :=
  ⟨database, none⟩

/-- The end of the process rolls an open transaction back. -/
def Connection.close {Database : Type} (connection : Connection Database) : Database :=
  connection.committed

/-- `BEGIN`, the body, `COMMIT`. -/
def transaction {Database : Type} (body : Py Database Unit) : Py (Connection Database) Unit :=
  fun connection ↦
    match connection.working with
    | some _ => (.error (.library "OperationalError".toList
        "cannot start a transaction within a transaction".toList), connection)
    | none =>
      match body connection.committed with
      | (.ok (), after) => (.ok (), ⟨after, none⟩)
      | (.error error, left) => (.error error, ⟨connection.committed, some left⟩)

section Transaction

variable {Database Item : Type}

/-- A transaction whose body returns is committed. -/
theorem transaction_of_ok {body : Py Database Unit} {database after : Database}
    (hbody : body database = (.ok (), after)) :
    transaction body (.idle database) = (.ok (), .idle after) := by
  simp [transaction, Connection.idle, hbody]

/-- A transaction whose body raises stays open over the unchanged database. -/
theorem transaction_of_error {body : Py Database Unit} {database left : Database}
    {error : PyError} (hbody : body database = (.error error, left)) :
    transaction body (.idle database) = (.error error, ⟨database, some left⟩) := by
  simp [transaction, Connection.idle, hbody]

/-- The body of a transaction that returned has returned, and nothing is left open. -/
theorem transaction_eq_ok {body : Py Database Unit} {database : Database}
    {connection : Connection Database}
    (hrun : transaction body (.idle database) = (.ok (), connection)) :
    body database = (.ok (), connection.close) ∧ connection = .idle connection.close := by
  rcases hbody : body database with ⟨result, after⟩
  cases result with
  | ok value =>
    rw [transaction_of_ok hbody] at hrun
    cases hrun
    exact ⟨rfl, rfl⟩
  | error error =>
    rw [transaction_of_error hbody] at hrun
    cases hrun

/-- What the body keeps, the transaction keeps of the committed database. -/
theorem transaction_keeps {property : Database → Prop} {body : Py Database Unit}
    (hbody : Py.Keeps property body) {database : Database} (hstart : property database) :
    property (transaction body (.idle database)).2.close := by
  have hafter := hbody database hstart
  rcases hrun : body database with ⟨result, after⟩
  rw [hrun] at hafter
  cases result with
  | ok value =>
    rw [transaction_of_ok hrun]
    exact hafter
  | error error =>
    rw [transaction_of_error hrun]
    exact hstart

/-- A property of the database that every committed body keeps is kept by a loop of transactions,
however the loop ends. -/
theorem forEach_transaction_invariant {property : Database → Prop} {body : Item → Py Database Unit}
    (items : List Item)
    (hbody : ∀ item ∈ items, ∀ database after, property database →
      body item database = (.ok (), after) → property after)
    {database : Database} (hstart : property database) :
    property (Py.forEach items (fun item ↦ transaction (body item))
      (.idle database)).2.committed := by
  induction items generalizing database with
  | nil => exact hstart
  | cons item rest ih =>
    rw [Py.forEach_cons]
    rcases hrun : body item database with ⟨result, after⟩
    cases result with
    | ok value =>
      rw [Py.run_bind_ok (transaction_of_ok hrun)]
      exact ih (fun other hother ↦ hbody other (List.mem_cons_of_mem item hother))
        (hbody item List.mem_cons_self database after hstart hrun)
    | error error =>
      rw [Py.run_bind_error (transaction_of_error hrun)]
      exact hstart

end Transaction

end Ec2Wrappers.Foundations
