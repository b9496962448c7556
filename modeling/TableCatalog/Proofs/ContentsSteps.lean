import TableCatalog.Proofs.ContentsSuccess

/-! How a change of the contents that succeeds leaves them.
All that is preserved by runs is read off these steps. -/

namespace TableCatalog

/-- The partitions that an operation is to drop: those of which table, and by which values. -/
def Operation.tuples? : Operation → Option (String × Ident × Ident × List (List String))
  | dropPartition catalog db table values => some (catalog, db, table, [values])
  | dropPartitions catalog db table tuples => some (catalog, db, table, tuples)
  | _ => none

namespace Contents

variable {contents after : Contents} {catalog : String} {db table : Ident} {fresh : String}

/-- How operations that succeed change the contents. Those that draw no identifier may be a question
or a drop of nothing, which leave the contents. -/
inductive Step (options : StoreOptions) (contents : Contents) :
    Operation → Outcome → Contents → Prop
  | same {operation : Operation} {outcome : Outcome} (quiet : operation.fresh? = none) :
      Step options contents operation outcome contents
  | createDatabase {catalog : String} {fresh : String} {index : Index DatabaseNode}
      {record result : Database} (opened : (contents.find? catalog).getD {} = index)
      (free : index.id? (nameOf record.ident) = none)
      (named : result =
        { record with ident := some ⟨nameOf record.ident, fresh⟩, sequence := index.count + 1 }) :
      Step options contents (.createDatabase catalog record fresh) (.database result)
        (contents.insert catalog (index.add (nameOf record.ident) fresh { record := result }))
  | alterDatabase {catalog : String} {db : Ident} {found : FoundDatabase} {changes : Database}
      (here : contents.database catalog db = .ok found) :
      Step options contents (.alterDatabase catalog db changes)
        (.database (found.node.record.alter changes))
        (contents.setDatabase catalog found
          { found.node with record := found.node.record.alter changes })
  | dropDatabase {catalog : String} {db : Ident} {found : FoundDatabase}
      (here : contents.database catalog db = .ok found) :
      Step options contents (.dropDatabase catalog db) .done
        (contents.insert catalog (found.index.remove (nameOf found.node.record.ident) found.id))
  | createTable {catalog : String} {db : Ident} {fresh : String} {found : FoundDatabase}
      {record result : Table} (here : contents.database catalog db = .ok found)
      (free : found.node.tables.id? (nameOf record.ident) = none)
      (named : result = { record with
        ident := some ⟨nameOf record.ident, fresh⟩, sequence := found.node.tables.count + 1 }) :
      Step options contents (.createTable catalog db record fresh) (.table result)
        (contents.setTables catalog found
          (found.node.tables.add (nameOf record.ident) fresh { record := result }))
  | dropTable {catalog : String} {db table : Ident} {found : FoundTable} {missing : Fault}
      (here : contents.table catalog db table missing = .ok found) :
      Step options contents (.dropTable catalog db table) .done
        (contents.setTables catalog found.db
          (found.db.node.tables.remove (nameOf found.node.record.ident) found.id))
  | addPartition {catalog : String} {db table : Ident} {fresh : String}
      {found : FoundTable} {shelf : Shelf} {record result : Partition}
      (here : contents.scope catalog db table = .ok found)
      (opened : found.node.shelf.getD {} = shelf)
      (free : shelf.rows.find? (Bytes.ofText (Request.joinValues record.values)) = none)
      (kept : result = kept options.fillLocation record fresh (shelf.count + 1)) :
      Step options contents (.addPartition catalog db table record fresh) (.partition result)
        (contents.setShelf catalog found ⟨shelf.count + 1,
          shelf.rows.insert (Bytes.ofText (Request.joinValues record.values)) result⟩)
  | dropPartitions {catalog : String} {db table : Ident} {operation : Operation} {outcome : Outcome}
      {found : FoundTable} {shelf : Shelf} {drop : Bytes → Bool} (quiet : operation.fresh? = none)
      (here : contents.scope catalog db table = .ok found) (opened : found.node.shelf = some shelf)
      {tuples : List (List String)} (asked : operation.tuples? = some (catalog, db, table, tuples))
      (picked : ∀ key, drop (Bytes.ofText key) = true ↔
        ∃ values ∈ tuples, Request.joinValues values = key) :
      Step options contents operation outcome
        (contents.setShelf catalog found ⟨shelf.count, shelf.rows.removeWhere drop⟩)

variable {options : StoreOptions}

private theorem createDatabase_step {record result : Database}
    (done : contents.createDatabase catalog record fresh = .ok (result, after)) :
    Step options contents (.createDatabase catalog record fresh) (.database result) after := by
  obtain ⟨-, -, free, named, rfl⟩ := createDatabase_eq_ok.1 done
  exact .createDatabase rfl free named

private theorem alterDatabase_step {changes result : Database}
    (done : contents.alterDatabase catalog db changes = .ok (result, after)) :
    Step options contents (.alterDatabase catalog db changes) (.database result) after := by
  obtain ⟨-, -, found, here, rfl, rfl⟩ := alterDatabase_eq_ok.1 done
  exact .alterDatabase here

private theorem dropDatabase_step {result : Unit}
    (done : contents.dropDatabase catalog db = .ok (result, after)) :
    Step options contents (.dropDatabase catalog db) .done after := by
  obtain ⟨-, -, found, here, rfl⟩ := dropDatabase_eq_ok.1 done
  exact .dropDatabase here

private theorem createTable_step {record result : Table}
    (done : contents.createTable catalog db record fresh = .ok (result, after)) :
    Step options contents (.createTable catalog db record fresh) (.table result) after := by
  obtain ⟨-, -, found, here, free, named, rfl⟩ := createTable_eq_ok.1 done
  exact .createTable here free named

private theorem dropTable_step {result : Unit}
    (done : contents.dropTable catalog db table = .ok (result, after)) :
    Step options contents (.dropTable catalog db table) .done after := by
  obtain ⟨-, found, here, rfl⟩ := dropTable_eq_ok.1 done
  exact .dropTable here

private theorem addPartition_step {record result : Partition}
    (done : contents.addPartition options.fillLocation catalog db table record fresh =
        .ok (result, after)) :
    Step options contents (.addPartition catalog db table record fresh)
      (.partition result) after := by
  obtain ⟨-, -, found, here, free, same, rfl⟩ := addPartition_eq_ok.1 done
  exact .addPartition here rfl free same

private theorem dropPartitions_step {tuples : List (List String)}
    {count : Nat} {operation : Operation} (outcome : Outcome)
    (asked : operation.tuples? = some (catalog, db, table, tuples))
    (done : contents.dropPartitions catalog db table tuples = .ok (count, after)) :
    Step options contents operation outcome after := by
  have quiet : operation.fresh? = none := by cases operation <;> first | rfl | cases asked
  obtain ⟨-, keys, joined, -, ⟨-, rfl⟩ | ⟨-, found, shelf, here, opened, -, rfl⟩⟩ :=
    dropPartitions_eq_ok.1 done
  · exact .same quiet
  · refine .dropPartitions quiet here opened asked fun key => ?_
    rw [← (Request.partitionKeys_ok joined).2 key]
    simp [Bytes.ofText_inj]

theorem change_eq_ok {wrap : α → Outcome} {result : Except Fault (α × Contents)}
    {outcome : Outcome} :
    contents.change wrap result = (.ok outcome, after) ↔
    ∃ value, result = .ok (value, after) ∧ outcome = wrap value := by
  cases result with
  | error fault => simp [change]
  | ok done =>
    obtain ⟨value, left⟩ := done
    simp only [change, Prod.mk.injEq, Except.ok.injEq]
    constructor
    · rintro ⟨rfl, rfl⟩
      exact ⟨value, ⟨rfl, rfl⟩, rfl⟩
    · rintro ⟨_, ⟨rfl, rfl⟩, rfl⟩
      exact ⟨rfl, rfl⟩

/-- An operation that succeeds is one of the steps. -/
theorem step_of_run {operation : Operation} {outcome : Outcome}
    (ran : contents.run options operation = (.ok outcome, after)) :
    Step options contents operation outcome after := by
  cases operation with
  | getDatabase | listDatabases | getTable | listTables | getPartition | listPartitions =>
    obtain ⟨-, rfl⟩ := Prod.mk.inj ran
    exact .same rfl
  | createDatabase =>
    obtain ⟨_, done, rfl⟩ := change_eq_ok.1 ran
    exact createDatabase_step done
  | alterDatabase =>
    obtain ⟨_, done, rfl⟩ := change_eq_ok.1 ran
    exact alterDatabase_step done
  | dropDatabase =>
    obtain ⟨_, done, rfl⟩ := change_eq_ok.1 ran
    exact dropDatabase_step done
  | createTable =>
    obtain ⟨_, done, rfl⟩ := change_eq_ok.1 ran
    exact createTable_step done
  | dropTable =>
    obtain ⟨_, done, rfl⟩ := change_eq_ok.1 ran
    exact dropTable_step done
  | addPartition =>
    obtain ⟨_, done, rfl⟩ := change_eq_ok.1 ran
    exact addPartition_step done
  | dropPartition | dropPartitions =>
    obtain ⟨_, done, rfl⟩ := change_eq_ok.1 ran
    exact dropPartitions_step _ rfl done

/-- An operation that fails leaves the contents. -/
theorem run_error {operation : Operation} {fault : Fault}
    (ran : contents.run options operation = (.error fault, after)) :
    after = contents := by
  cases operation with
  | getDatabase | listDatabases | getTable | listTables | getPartition | listPartitions =>
    exact (Prod.mk.inj ran).2.symm
  | _ =>
    simp only [run, change] at ran
    split at ran
    · cases (Prod.mk.inj ran).1
    · exact (Prod.mk.inj ran).2.symm

end Contents
end TableCatalog
