import TableCatalog.Proofs.ContentsSound

/-! What a change of the contents leaves alone. For each way to write
there is one equation for each thing that can stand in the contents,
and from these it is told what a step can take away, and from whom. -/

namespace TableCatalog

/-- The partition under a key. -/
def TableNode.row? (node : TableNode) (key : String) : Option Partition :=
  (node.shelf.getD {}).rows.find? (Bytes.ofText key)

/-- A row stays where another is added under a key that was free. -/
theorem TableNode.find?_insert_of_row {node : TableNode} {shelf : Shelf} {added : Bytes}
    {key : String} {record result : Partition} (opened : node.shelf.getD {} = shelf)
    (free : shelf.rows.find? added = none) (row : node.row? key = some record) :
    (shelf.rows.insert added result).find? (Bytes.ofText key) = some record := by
  rw [row?, opened] at row
  rw [SortedMap.find?_insert, if_neg, row]
  intro taken
  rw [taken, free] at row
  cases row

namespace Contents

variable {contents after : Contents} {catalog other owner id : String}
  {db table : Ident} {index : Index DatabaseNode}

theorem database?_of_find (there : contents.find? catalog = some index) :
    contents.database? catalog id = index.node? id := by
  rw [database?, there, Option.bind_some]

theorem database?_of_opened (opened : (contents.find? catalog).getD {} = index) :
    contents.database? catalog id = index.node? id := by
  rw [database?, ← opened]
  cases contents.find? catalog <;> rfl

theorem table?_eq (contents : Contents) (catalog owner id : String) :
    contents.table? catalog owner id =
      (contents.database? catalog owner).bind (·.tables.node? id) := rfl

theorem uses_of_database? {node : DatabaseNode}
    (there : contents.database? catalog id = some node) :
    contents.Uses id := by
  obtain ⟨index, stood, held⟩ := Option.bind_eq_some_iff.1 there
  exact ⟨_, _, stood, .inl ⟨_, held⟩⟩

theorem uses_of_table? {node : TableNode} (there : contents.table? catalog owner id = some node) :
    contents.Uses id := by
  obtain ⟨inside, owned, held⟩ := Option.bind_eq_some_iff.1 there
  obtain ⟨index, stood, placed⟩ := Option.bind_eq_some_iff.1 owned
  exact ⟨_, _, stood, .inr ⟨_, _, placed, _, held⟩⟩

theorem database?_insert :
    database? (contents.insert catalog index) other id = if other = catalog
      then index.node? id else contents.database? other id := by
  rw [database?, SortedMap.find?_insert]
  split <;> rfl

theorem database?_add {name fresh : String} {node : DatabaseNode}
    (opened : (contents.find? catalog).getD {} = index) :
    database? (contents.insert catalog (index.add name fresh node)) other id =
      if other = catalog ∧ id = fresh then some node else contents.database? other id := by
  rw [database?_insert, Index.node?_add]
  by_cases same : other = catalog
  · subst same
    simp only [true_and, if_true, database?_of_opened opened]
  · simp only [same, false_and, if_false]

theorem database?_remove {name gone : String} (there : contents.find? catalog = some index) :
    database? (contents.insert catalog (index.remove name gone)) other id =
      if other = catalog ∧ id = gone then none else contents.database? other id := by
  rw [database?_insert, Index.node?_remove]
  by_cases same : other = catalog
  · subst same
    simp only [true_and, if_true, database?_of_find there]
  · simp only [same, false_and, if_false]

theorem table?_addDatabase {name fresh : String} {node : DatabaseNode}
    (opened : (contents.find? catalog).getD {} = index) :
    table? (contents.insert catalog (index.add name fresh node)) other owner id =
      if other = catalog ∧ owner = fresh then node.tables.node? id
      else contents.table? other owner id := by
  rw [table?_eq, database?_add opened]
  split <;> rfl

theorem table?_removeDatabase {name gone : String} (there : contents.find? catalog = some index) :
    table? (contents.insert catalog (index.remove name gone)) other owner id =
      if other = catalog ∧ owner = gone then none else contents.table? other owner id := by
  rw [table?_eq, database?_remove there]
  split <;> rfl

variable {found : FoundDatabase}

theorem database?_of_database (here : contents.database catalog db = .ok found) :
    contents.database? catalog found.id = some found.node := by
  obtain ⟨there, -, held⟩ := database_eq_ok.1 here
  rw [database?_of_find there, held]

theorem table?_of_database (here : contents.database catalog db = .ok found) :
    contents.table? catalog found.id id = found.node.tables.node? id := by
  rw [table?_eq, database?_of_database here, Option.bind_some]

theorem table?_of_table {found : FoundTable} {missing : Fault}
    (here : contents.table catalog db table missing = .ok found) :
    contents.table? catalog found.db.id found.id = some found.node := by
  obtain ⟨here, -, stood⟩ := table_eq_ok.1 here
  rw [table?_of_database here, stood]

theorem database?_setDatabase (here : contents.database catalog db = .ok found)
    (node : DatabaseNode) :
    (contents.setDatabase catalog found node).database? other id =
      if other = catalog ∧ id = found.id then some node else contents.database? other id := by
  obtain ⟨there, -, -⟩ := database_eq_ok.1 here
  rw [setDatabase, database?_insert, Index.node?_put]
  by_cases same : other = catalog
  · subst same
    simp only [true_and, if_true, database?_of_find there]
  · simp only [same, false_and, if_false]

theorem table?_setDatabase (here : contents.database catalog db = .ok found) (node : DatabaseNode) :
    (contents.setDatabase catalog found node).table? other owner id =
      if other = catalog ∧ owner = found.id then node.tables.node? id
      else contents.table? other owner id := by
  rw [table?_eq, database?_setDatabase here]
  split <;> rfl

/-- A database that is altered keeps its tables. -/
theorem table?_alter (here : contents.database catalog db = .ok found) (record : Database) :
    (contents.setDatabase catalog found { found.node with record }).table? other owner id =
      contents.table? other owner id := by
  rw [table?_setDatabase here]
  split
  next same => rw [same.1, same.2, table?_of_database here]
  next => rfl

theorem table?_add {name fresh : String} {node : TableNode}
    (here : contents.database catalog db = .ok found) :
    (contents.setTables catalog found (found.node.tables.add name fresh node)).table?
        other owner id =
      if other = catalog ∧ owner = found.id ∧ id = fresh then some node
      else contents.table? other owner id := by
  rw [setTables, table?_setDatabase here, Index.node?_add]
  by_cases same : other = catalog ∧ owner = found.id
  · obtain ⟨rfl, rfl⟩ := same
    simp only [true_and, if_true, table?_of_database here]
  · rw [if_neg same, if_neg fun all => same ⟨all.1, all.2.1⟩]

theorem table?_remove {name gone : String} (here : contents.database catalog db = .ok found) :
    (contents.setTables catalog found (found.node.tables.remove name gone)).table? other owner id =
      if other = catalog ∧ owner = found.id ∧ id = gone then none
      else contents.table? other owner id := by
  rw [setTables, table?_setDatabase here, Index.node?_remove]
  by_cases same : other = catalog ∧ owner = found.id
  · obtain ⟨rfl, rfl⟩ := same
    simp only [true_and, if_true, table?_of_database here]
  · rw [if_neg same, if_neg fun all => same ⟨all.1, all.2.1⟩]

theorem table?_setShelf {found : FoundTable} {missing : Fault}
    (here : contents.table catalog db table missing = .ok found) (shelf : Shelf) :
    (contents.setShelf catalog found shelf).table? other owner id =
      if other = catalog ∧ owner = found.db.id ∧ id = found.id
        then some { found.node with shelf := some shelf }
      else contents.table? other owner id := by
  obtain ⟨here, -, -⟩ := table_eq_ok.1 here
  rw [setShelf, setTables, table?_setDatabase here, Index.node?_put]
  by_cases same : other = catalog ∧ owner = found.db.id
  · obtain ⟨rfl, rfl⟩ := same
    simp only [true_and, if_true, table?_of_database here]
  · rw [if_neg same, if_neg fun all => same ⟨all.1, all.2.1⟩]

/-- A table is still found after a change of its shelf, and by the same identities. -/
theorem table_setShelf {found : FoundTable} {missing : Fault}
    (here : contents.table catalog db table missing = .ok found) (shelf : Shelf) :
    ∃ later, (contents.setShelf catalog found shelf).table catalog db table missing = .ok later ∧
      later.node = { found.node with shelf := some shelf } := by
  obtain ⟨placed, resolved, -⟩ := table_eq_ok.1 here
  obtain ⟨-, owner, -⟩ := database_eq_ok.1 placed
  let tables := found.db.node.tables.put found.id { found.node with shelf := some shelf }
  let inside : DatabaseNode := { found.db.node with tables }
  have database : (contents.setShelf catalog found shelf).database catalog db =
      .ok ⟨found.db.index.put found.db.id inside, found.db.id, inside⟩ :=
    database_eq_ok.2 ⟨(SortedMap.find?_insert ..).trans (if_pos rfl),
      owner, Index.node?_put.trans (if_pos rfl)⟩
  exact ⟨⟨_, found.id, _⟩,
    table_eq_ok.2 ⟨database, resolved, Index.node?_put.trans (if_pos rfl)⟩, rfl⟩

def Alters (contents : Contents) (catalog id : String) (operation : Operation) : Prop :=
  ∃ db changes found, operation = .alterDatabase catalog db changes ∧
  contents.database catalog db = .ok found ∧ found.id = id

def DropsDatabase (contents : Contents) (catalog id : String) (operation : Operation) : Prop :=
  ∃ db found, operation = .dropDatabase catalog db ∧
  contents.database catalog db = .ok found ∧ found.id = id

def DropsTable (contents : Contents) (catalog owner id : String) (operation : Operation) : Prop :=
  ∃ db table missing found, operation = .dropTable catalog db table ∧
    contents.table catalog db table missing = .ok found ∧
    found.db.id = owner ∧ found.id = id

/-- A partition goes with every tuple that has its key. -/
def DropsKey (contents : Contents) (catalog owner id key : String) (operation : Operation) : Prop :=
  ∃ db table tuples found, operation.tuples? = some (catalog, db, table, tuples) ∧
    contents.scope catalog db table = .ok found ∧
    found.db.id = owner ∧ found.id = id ∧ ∃ values ∈ tuples, Request.joinValues values = key

namespace Step

variable {options : StoreOptions} {operation : Operation} {outcome : Outcome}

private theorem kept_setTables (here : contents.database catalog db = .ok found)
    (tables : Index TableNode) {before : DatabaseNode}
    (there : contents.database? other id = some before) :
    ∃ later, (contents.setTables catalog found tables).database? other id = some later ∧
    later.record = before.record := by
  rw [setTables, database?_setDatabase here]
  split
  next equal =>
    obtain ⟨rfl, rfl⟩ := equal
    rw [database?_of_database here] at there
    cases there
    exact ⟨_, rfl, rfl⟩
  next => exact ⟨before, there, rfl⟩

/-- A database stays until it is dropped, under its
identity, and with its record unless it is altered. -/
theorem database? (step : Step options contents operation outcome after)
    (fresh : ∀ id, operation.fresh? = some id → ¬ contents.Uses id)
    {node : DatabaseNode} (there : contents.database? other id = some node) :
    (∃ later, after.database? other id = some later ∧ later.record.ident = node.record.ident ∧
      (later.record = node.record ∨ contents.Alters other id operation)) ∨
    contents.DropsDatabase other id operation := by
  have stays (kept : ∃ later, after.database? other id = some later ∧ later.record = node.record) :
      (∃ later, after.database? other id = some later ∧
        later.record.ident = node.record.ident ∧
        (later.record = node.record ∨ contents.Alters other id operation)) ∨
      contents.DropsDatabase other id operation := by
    obtain ⟨later, held, equal⟩ := kept
    exact .inl ⟨later, held, congrArg (·.ident) equal, .inl equal⟩
  cases step with
  | same => exact stays ⟨node, there, rfl⟩
  | @createDatabase catalog drawn index record result opened =>
    have apart : ¬ (other = catalog ∧ id = drawn) := by
      rintro ⟨-, rfl⟩
      exact fresh id rfl (uses_of_database? there)
    exact stays ⟨node, by rw [database?_add opened, if_neg apart, there], rfl⟩
  | @alterDatabase catalog db found changes here =>
    by_cases same : other = catalog ∧ id = found.id
    · obtain ⟨rfl, rfl⟩ := same
      rw [database?_of_database here] at there
      cases there
      refine .inl ⟨{ found.node with record := found.node.record.alter changes }, ?_, rfl,
        .inr ⟨db, changes, found, rfl, here, rfl⟩⟩
      rw [database?_setDatabase here, if_pos ⟨rfl, rfl⟩]
    · exact stays ⟨node, by rw [database?_setDatabase here, if_neg same, there], rfl⟩
  | @dropDatabase catalog db found here =>
    by_cases same : other = catalog ∧ id = found.id
    · obtain ⟨rfl, rfl⟩ := same
      exact .inr ⟨db, found, rfl, here, rfl⟩
    · refine stays ⟨node, ?_, rfl⟩
      rw [database?_remove (database_eq_ok.1 here).1, if_neg same, there]
  | createTable here => exact stays (kept_setTables here _ there)
  | dropTable here => exact stays (kept_setTables (table_eq_ok.1 here).1 _ there)
  | addPartition here => exact stays (kept_setTables (table_eq_ok.1 here).1 _ there)
  | dropPartitions quiet here => exact stays (kept_setTables (table_eq_ok.1 here).1 _ there)

/-- A table whose shelf is changed keeps its record, and the rows that are on the new shelf. -/
private theorem kept_setShelf {found : FoundTable} {missing : Fault}
    {shelf : Shelf} {node : TableNode} (here : contents.table catalog db table missing = .ok found)
    (rows : ∀ key record, found.node.row? key = some record →
      shelf.rows.find? (Bytes.ofText key) = some record ∨
        contents.DropsKey catalog found.db.id found.id key operation)
    (there : contents.table? other owner id = some node) :
    ∃ later, (contents.setShelf catalog found shelf).table? other owner id = some later ∧
      later.record = node.record ∧
      ∀ key record, node.row? key = some record →
        later.row? key = some record ∨ contents.DropsKey other owner id key operation := by
  rw [table?_setShelf here]
  split
  next same =>
    obtain ⟨rfl, rfl, rfl⟩ := same
    rw [table?_of_table here] at there
    cases there
    exact ⟨_, rfl, rfl, rows⟩
  next => exact ⟨node, there, rfl, fun _ _ row => .inl row⟩

/-- Rows go from a shelf only under the keys of the tuples that are dropped. -/
private theorem row_kept_or_dropped {found : FoundTable} {shelf : Shelf} {drop : Bytes → Bool}
    {tuples : List (List String)} (here : contents.scope catalog db table = .ok found)
    (opened : found.node.shelf = some shelf)
    (asked : operation.tuples? = some (catalog, db, table, tuples))
    (picked : ∀ key, drop (Bytes.ofText key) = true ↔
      ∃ values ∈ tuples, Request.joinValues values = key)
    (key : String) (record : Partition) (row : found.node.row? key = some record) :
    (shelf.rows.removeWhere drop).find? (Bytes.ofText key) = some record ∨
      contents.DropsKey catalog found.db.id found.id key operation := by
  cases dropped : drop (Bytes.ofText key) with
  | true => exact .inr ⟨db, table, tuples, found, asked, here, rfl, rfl, (picked key).1 dropped⟩
  | false =>
    rw [TableNode.row?, opened] at row
    rw [SortedMap.find?_removeWhere, dropped]
    exact .inl row

/-- A table stays until it or its database is dropped, and
so does each of its partitions until its key is dropped. -/
theorem table? (step : Step options contents operation outcome after)
    (fresh : ∀ id, operation.fresh? = some id → ¬ contents.Uses id)
    {node : TableNode} (there : contents.table? other owner id = some node) :
    (∃ later, after.table? other owner id = some later ∧ later.record = node.record ∧
      ∀ key record, node.row? key = some record →
        later.row? key = some record ∨ contents.DropsKey other owner id key operation) ∨
    contents.DropsDatabase other owner operation ∨
    contents.DropsTable other owner id operation := by
  have stays (held : after.table? other owner id = some node) :
      (∃ later, after.table? other owner id = some later ∧ later.record = node.record ∧
        ∀ key record, node.row? key = some record →
          later.row? key = some record ∨ contents.DropsKey other owner id key operation) ∨
      contents.DropsDatabase other owner operation ∨
      contents.DropsTable other owner id operation :=
    .inl ⟨node, held, rfl, fun _ _ row => .inl row⟩
  obtain ⟨inside, owned, -⟩ := Option.bind_eq_some_iff.1 there
  cases step with
  | same => exact stays there
  | @createDatabase catalog drawn index record result opened =>
    have apart : ¬ (other = catalog ∧ owner = drawn) := by
      rintro ⟨-, rfl⟩
      exact fresh owner rfl (uses_of_database? owned)
    exact stays (by rw [table?_addDatabase opened, if_neg apart, there])
  | alterDatabase here => exact stays ((table?_alter here _).trans there)
  | @dropDatabase catalog db found here =>
    by_cases same : other = catalog ∧ owner = found.id
    · obtain ⟨rfl, rfl⟩ := same
      exact .inr (.inl ⟨db, found, rfl, here, rfl⟩)
    · refine stays ?_
      rw [table?_removeDatabase (database_eq_ok.1 here).1, if_neg same, there]
  | @createTable catalog db drawn found record result here =>
    have apart : ¬ (other = catalog ∧ owner = found.id ∧ id = drawn) := by
      rintro ⟨-, -, rfl⟩
      exact fresh id rfl (uses_of_table? there)
    exact stays (by rw [table?_add here, if_neg apart, there])
  | @dropTable catalog db table found missing here =>
    by_cases same : other = catalog ∧ owner = found.db.id ∧ id = found.id
    · obtain ⟨rfl, rfl, rfl⟩ := same
      exact .inr (.inr ⟨db, table, missing, found, rfl, here, rfl, rfl⟩)
    · refine stays ?_
      rw [table?_remove (table_eq_ok.1 here).1, if_neg same, there]
  | addPartition here opened free =>
    exact .inl (kept_setShelf here
      (fun _ _ row => .inl (TableNode.find?_insert_of_row opened free row)) there)
  | dropPartitions quiet here opened asked picked =>
    exact .inl (kept_setShelf here (row_kept_or_dropped here opened asked picked) there)

end Step
end Contents
end TableCatalog
