import TableCatalog.Proofs.ContentsFrame

/-! Contents in which the locations of partitions are filled in. Every
operation does there what it does where they are not, and what it reads
of a partition is the same, since readers fill in what is missing. -/

namespace TableCatalog

theorem Partition.fillLocation_twice (record : Partition) :
    record.fillLocation.fillLocation = record.fillLocation := by
  unfold fillLocation
  cases storage : record.storage with
  | none => split <;> simp only [storage]
  | some descriptor =>
    by_cases empty : record.location.isEmpty
    · simp only [empty, if_true, ite_self]
    · simp only [empty, Bool.false_eq_true, if_false]

def Index.map {ε : Type} (index : Index ε) (change : ε → ε) : Index ε :=
  { index with entries := index.entries.map change }

def Shelf.filled (shelf : Shelf) : Shelf :=
  { shelf with rows := shelf.rows.map Partition.fillLocation }

def TableNode.filled (node : TableNode) : TableNode :=
  { node with shelf := node.shelf.map Shelf.filled }

def DatabaseNode.filled (node : DatabaseNode) : DatabaseNode :=
  { node with tables := node.tables.map TableNode.filled }

def Contents.filled (contents : Contents) : Contents :=
  SortedMap.map contents fun index => index.map DatabaseNode.filled

/-- What the answer of an operation becomes if it is a partition as stored. -/
def Outcome.filled : Outcome → Outcome
  | .partition record => .partition record.fillLocation
  | outcome => outcome

theorem TableNode.filled_shelf (node : TableNode) :
    node.filled.shelf.getD {} = (node.shelf.getD {}).filled := by
  rw [filled]
  cases node.shelf <;> rfl

theorem Shelf.row_filled (shelf : Shelf) (key : Bytes) :
    shelf.filled.rows.find? key = (shelf.rows.find? key).map Partition.fillLocation :=
  shelf.rows.find?_map _ key

namespace Index

variable {ε : Type} (index : Index ε) (change : ε → ε) (entity : Entity)
  (ident : Ident) (missing : Fault) (name id : String) (node : ε)

theorem node?_map : (index.map change).node? id = (index.node? id).map change :=
  index.entries.find?_map change (Bytes.ofText id)

theorem find_map : (index.map change).find entity ident missing =
      (index.find entity ident missing).map fun found => (found.1, change found.2) := by
  have resolved : (index.map change).resolve entity ident = index.resolve entity ident := rfl
  unfold find
  rw [resolved]
  cases index.resolve entity ident with
  | error fault => rfl
  | ok id =>
    simp only [bind, Except.bind, node?_map]
    cases index.node? id <;> rfl

theorem add_map :
    (index.map change).add name id (change node) = (index.add name id node).map change := by
  simp only [add, map, SortedMap.map_insert]

theorem put_map : (index.map change).put id (change node) = (index.put id node).map change := by
  simp only [put, map, SortedMap.map_insert]

theorem remove_map : (index.map change).remove name id = (index.remove name id).map change := by
  simp only [remove, map, SortedMap.map_erase]

end Index

namespace Contents

def FoundDatabase.filled (found : FoundDatabase) : FoundDatabase :=
  ⟨found.index.map DatabaseNode.filled, found.id, found.node.filled⟩

def FoundTable.filled (found : FoundTable) : FoundTable :=
  ⟨found.db.filled, found.id, found.node.filled⟩

variable (contents : Contents) (catalog : String) (db table : Ident)

theorem find?_filled :
    contents.filled.find? catalog = (contents.find? catalog).map fun index =>
      index.map DatabaseNode.filled :=
  SortedMap.find?_map contents _ catalog

theorem opened_filled : (contents.filled.find? catalog).getD {} =
      ((contents.find? catalog).getD {}).map DatabaseNode.filled := by
  rw [find?_filled]
  cases contents.find? catalog <;> rfl

theorem insert_filled (index : Index DatabaseNode) :
    contents.filled.insert catalog (index.map DatabaseNode.filled) =
      filled (contents.insert catalog index) :=
  (SortedMap.map_insert contents _ catalog index).symm

theorem database_filled : contents.filled.database catalog db =
      (contents.database catalog db).map FoundDatabase.filled := by
  unfold database Contents.catalog
  rw [find?_filled]
  cases contents.find? catalog with
  | none => rfl
  | some index =>
    simp only [Option.map_some, bind, Except.bind, Index.find_map]
    cases index.find .database db (.absent ("database " ++ db.text)) <;> rfl

theorem table_filled (missing : Fault) :
    contents.filled.table catalog db table missing =
      (contents.table catalog db table missing).map FoundTable.filled := by
  unfold Contents.table
  rw [database_filled]
  cases contents.database catalog db with
  | error fault => rfl
  | ok found =>
    have inside : found.filled.node.tables = found.node.tables.map TableNode.filled := rfl
    simp only [Except.map, bind, Except.bind, inside, Index.find_map]
    cases found.node.tables.find .table table missing <;> rfl

theorem scope_filled : contents.filled.scope catalog db table =
      (contents.scope catalog db table).map FoundTable.filled :=
  contents.table_filled catalog db table _

theorem setDatabase_filled (found : FoundDatabase) (node : DatabaseNode) :
    contents.filled.setDatabase catalog found.filled node.filled =
      (contents.setDatabase catalog found node).filled := by
  simp only [setDatabase, FoundDatabase.filled, Index.put_map, insert_filled]

theorem setTables_filled (found : FoundDatabase) (tables : Index TableNode) :
    contents.filled.setTables catalog found.filled (tables.map TableNode.filled) =
      (contents.setTables catalog found tables).filled :=
  contents.setDatabase_filled catalog found { found.node with tables }

theorem setShelf_filled (found : FoundTable) (shelf : Shelf) :
    contents.filled.setShelf catalog found.filled shelf.filled =
      (contents.setShelf catalog found shelf).filled := by
  have kept : ({ found.filled.node with shelf := some shelf.filled } : TableNode) =
    TableNode.filled { found.node with shelf := some shelf } := rfl
  have inside : found.filled.db.node.tables = found.db.node.tables.map TableNode.filled := rfl
  rw [setShelf, kept, inside, FoundTable.filled, Index.put_map, setTables_filled, setShelf]

/-- The answer stays as it is, and the contents afterwards are filled. -/
def fillAfter {α : Type} (done : α × Contents) : α × Contents := (done.1, filled done.2)

variable (fresh : String)

theorem createDatabase_filled (record : Database) :
    contents.filled.createDatabase catalog record fresh =
      (contents.createDatabase catalog record fresh).map fillAfter := by
  unfold createDatabase
  rw [opened_filled]
  cases Request.requireCatalog catalog with
  | error fault => rfl
  | ok =>
    cases Request.requireName .database record.ident with
    | error fault => rfl
    | ok name =>
      generalize (contents.find? catalog).getD {} = index
      have names : (index.map DatabaseNode.filled).id? name = index.id? name := rfl
      have added (record : Database) : (index.map DatabaseNode.filled).add name fresh { record } =
          (index.add name fresh { record }).map DatabaseNode.filled :=
        index.add_map _ name fresh { record }
      simp only [bind, Except.bind, names, added, insert_filled]
      split <;> rfl

theorem getDatabase_filled :
    contents.filled.getDatabase catalog db = contents.getDatabase catalog db := by
  unfold getDatabase
  rw [database_filled]
  cases Request.requireCatalog catalog with
  | error fault => rfl
  | ok =>
    cases Request.requireIdent .database db with
    | error fault => rfl
    | ok => cases contents.database catalog db <;> rfl

theorem findDatabases_filled (listing : DatabaseListing) :
    contents.filled.findDatabases catalog listing = contents.findDatabases catalog listing := by
  unfold findDatabases
  rw [opened_filled]
  cases Request.requireCatalog catalog with
  | error fault => rfl
  | ok => exact congrArg Except.ok (List.map_map ..)

theorem alterDatabase_filled (changes : Database) :
    contents.filled.alterDatabase catalog db changes =
      (contents.alterDatabase catalog db changes).map fillAfter := by
  unfold alterDatabase
  rw [database_filled]
  cases Request.requireCatalog catalog with
  | error fault => rfl
  | ok =>
    cases Request.requireIdent .database db with
    | error fault => rfl
    | ok =>
      cases contents.database catalog db with
      | error fault => rfl
      | ok found =>
        have left := contents.setDatabase_filled catalog found { found.node with
          record := found.node.record.alter changes }
        exact congrArg (fun after => Except.ok (_, after)) left

theorem dropDatabase_filled :
    contents.filled.dropDatabase catalog db = (contents.dropDatabase catalog db).map fillAfter := by
  unfold dropDatabase
  rw [database_filled]
  cases Request.requireCatalog catalog with
  | error fault => rfl
  | ok =>
    cases Request.requireIdent .database db with
    | error fault => rfl
    | ok =>
      cases contents.database catalog db with
      | error fault => rfl
      | ok found =>
        have left := contents.insert_filled catalog
          (found.index.remove (nameOf found.node.record.ident) found.id)
        rw [← Index.remove_map] at left
        exact congrArg (fun after => Except.ok (_, after)) left

theorem createTable_filled (record : Table) :
    contents.filled.createTable catalog db record fresh =
      (contents.createTable catalog db record fresh).map fillAfter := by
  unfold createTable
  rw [database_filled]
  cases Request.requireCatalog catalog with
  | error fault => rfl
  | ok =>
    cases Request.requireIdent .database db with
    | error fault => rfl
    | ok =>
      cases Request.requireName .table record.ident with
      | error fault => rfl
      | ok name =>
        cases contents.database catalog db with
        | error fault => rfl
        | ok found =>
          have inside : found.filled.node.tables = found.node.tables.map TableNode.filled := rfl
          have names : (found.node.tables.map TableNode.filled).id? name =
            found.node.tables.id? name := rfl
          have added (record : Table) : (found.node.tables.map TableNode.filled).add name fresh
              { record } = (found.node.tables.add name fresh { record }).map TableNode.filled :=
            found.node.tables.add_map _ name fresh { record }
          simp only [bind, Except.bind, Except.map, inside, names, added, setTables_filled]
          split <;> rfl

theorem getTable_filled :
    contents.filled.getTable catalog db table = contents.getTable catalog db table := by
  unfold getTable
  rw [table_filled]
  cases Request.requireTable catalog db table with
  | error fault => rfl
  | ok => cases contents.table catalog db table (.absent ("table " ++ table.text)) <;> rfl

theorem findTables_filled (shown : List String) :
    contents.filled.findTables catalog db shown = contents.findTables catalog db shown := by
  unfold findTables
  rw [database_filled]
  cases Request.requireCatalog catalog with
  | error fault => rfl
  | ok =>
    cases Request.requireIdent .database db with
    | error fault => rfl
    | ok =>
      cases contents.database catalog db with
      | error fault => rfl
      | ok found => exact congrArg Except.ok (List.map_map ..)

theorem dropTable_filled : contents.filled.dropTable catalog db table =
      (contents.dropTable catalog db table).map fillAfter := by
  unfold dropTable
  rw [table_filled]
  cases Request.requireTable catalog db table with
  | error fault => rfl
  | ok =>
    cases contents.table catalog db table (.absent ("table " ++ table.text)) with
    | error fault => rfl
    | ok found =>
      have left := contents.setTables_filled catalog found.db
        (found.db.node.tables.remove (nameOf found.node.record.ident) found.id)
      rw [← Index.remove_map] at left
      exact congrArg (fun after => Except.ok (_, after)) left

/-- To fill a location in before the partition is stored, or to
store the partition and fill the location in, is the same. -/
theorem kept_true (record : Partition) (sequence : UInt64) :
    kept true record fresh sequence = (kept false record fresh sequence).fillLocation := by
  unfold kept Partition.fillLocation
  simp only [Bool.false_eq_true, if_false, if_true]
  cases record.storage <;> split <;> rfl

theorem addPartition_filled (record : Partition) :
    contents.filled.addPartition true catalog db table record fresh =
      (contents.addPartition false catalog db table record fresh).map fun done =>
        (done.1.fillLocation, filled done.2) := by
  unfold addPartition
  rw [scope_filled]
  cases Request.requireTable catalog db table with
  | error fault => rfl
  | ok =>
    cases Request.partitionKey record.values with
    | error fault => rfl
    | ok key =>
      cases contents.scope catalog db table with
      | error fault => rfl
      | ok found =>
        have opened : found.filled.node.shelf.getD {} = (found.node.shelf.getD {}).filled :=
          found.node.filled_shelf
        simp only [Except.map, bind, Except.bind, opened]
        generalize found.node.shelf.getD {} = shelf
        rw [shelf.row_filled, Option.isSome_map]
        split
        next => rfl
        next =>
          have stored := kept_true fresh record (shelf.count + 1)
          have left := contents.setShelf_filled catalog found ⟨shelf.count + 1,
            shelf.rows.insert (Bytes.ofText key) (kept false record fresh (shelf.count + 1))⟩
          rw [Shelf.filled, SortedMap.map_insert, ← stored] at left
          exact congrArg Except.ok (Prod.ext stored left)

theorem getPartition_filled (values shown : List String) :
    contents.filled.getPartition catalog db table values shown =
      contents.getPartition catalog db table values shown := by
  unfold getPartition
  rw [scope_filled]
  cases Request.requireTable catalog db table with
  | error fault => rfl
  | ok =>
    cases Request.partitionKey values with
    | error fault => rfl
    | ok key =>
      cases contents.scope catalog db table with
      | error fault => rfl
      | ok found =>
        have opened : found.filled.node.shelf.getD {} = (found.node.shelf.getD {}).filled :=
          found.node.filled_shelf
        simp only [Except.map, bind, Except.bind, opened, Shelf.row_filled]
        cases (found.node.shelf.getD {}).rows.find? (Bytes.ofText key) with
        | none => rfl
        | some record =>
          simp only [Option.map_some, Partition.fillLocation_twice]
          rfl

/-- What is shown of the partitions that a filter picks is
shown after their locations are filled in. -/
theorem picked_filled (shelf : Shelf) (keys : List String) :
    picked shelf.filled.rows keys = (picked shelf.rows keys).map Partition.fillLocation := by
  unfold picked Shelf.filled
  split
  next => simp only [SortedMap.map, List.map_map, Function.comp_def]
  next => simp only [SortedMap.find?_map, List.map_filterMap]

theorem findPartitions_filled (listing : PartitionListing) :
    contents.filled.findPartitions catalog db table listing =
      contents.findPartitions catalog db table listing := by
  unfold findPartitions
  rw [scope_filled]
  cases Request.requireTable catalog db table with
  | error fault => rfl
  | ok =>
    cases Request.partitionKeys listing.filter with
    | error fault => rfl
    | ok keys =>
      cases contents.scope catalog db table with
      | error fault => rfl
      | ok found =>
        have opened : found.filled.node.shelf.getD {} = (found.node.shelf.getD {}).filled :=
          found.node.filled_shelf
        have read := picked_filled (found.node.shelf.getD {}) keys
        unfold picked at read
        simp only [Except.map, bind, Except.bind, opened, read,
          List.map_map, Function.comp_def, Partition.fillLocation_twice]
        rfl

theorem dropPartitions_filled (tuples : List (List String)) :
    contents.filled.dropPartitions catalog db table tuples =
      (contents.dropPartitions catalog db table tuples).map fillAfter := by
  unfold dropPartitions
  rw [scope_filled]
  cases Request.requireTable catalog db table with
  | error fault => rfl
  | ok =>
    cases Request.partitionKeys tuples with
    | error fault => rfl
    | ok keys =>
      cases keys with
      | nil => rfl
      | cons first rest =>
        cases contents.scope catalog db table with
        | error fault => rfl
        | ok found =>
          have opened : found.filled.node.shelf.getD {} = (found.node.shelf.getD {}).filled :=
            found.node.filled_shelf
          simp only [Except.map, bind, Except.bind, opened]
          generalize found.node.shelf.getD {} = shelf
          simp only [shelf.row_filled, Option.isNone_map, List.isEmpty_cons,
            Bool.false_eq_true, if_false]
          cases (first :: rest).find? fun key => (shelf.rows.find? (Bytes.ofText key)).isNone with
          | some key => rfl
          | none =>
            have left := contents.setShelf_filled catalog found
              ⟨shelf.count, shelf.rows.removeWhere fun row =>
                ((first :: rest).map Bytes.ofText).contains row⟩
            rw [Shelf.filled, SortedMap.map_removeWhere] at left
            exact congrArg Except.ok (Prod.ext rfl left)

theorem change_filled {α : Type} (wrap : α → Outcome) (result : Except Fault (α × Contents)) :
    contents.filled.change wrap (result.map fillAfter) =
      ((contents.change wrap result).1, (contents.change wrap result).2.filled) := by
  cases result <;> rfl

end Contents

/-- What an operation answers if locations are filled in when partitions are added. -/
def Operation.answerFilled : Operation → Except Fault Outcome → Except Fault Outcome
  | addPartition .., result => result.map Outcome.filled
  | _, result => result

theorem Operation.answerFilled_error (operation : Operation) (fault : Fault) :
    operation.answerFilled (.error fault) = .error fault := by
  cases operation <;> rfl

theorem Operation.answerFilled_ok (operation : Operation) (outcome : Outcome) :
    ∃ told, operation.answerFilled (.ok outcome) = .ok told := by
  cases operation <;> exact ⟨_, rfl⟩

/-- An operation on filled contents fills locations in, and
does else what it does on the contents without filling any. -/
theorem Contents.run_filled (contents : Contents) (operation : Operation) :
    contents.filled.run { fillLocation := true } operation =
      (operation.answerFilled (contents.run { fillLocation := false } operation).1,
        (contents.run { fillLocation := false } operation).2.filled) := by
  cases operation with
  | createDatabase => rw [run, createDatabase_filled, change_filled]; rfl
  | getDatabase => rw [run, getDatabase_filled]; rfl
  | listDatabases => rw [run, findDatabases_filled]; rfl
  | alterDatabase => rw [run, alterDatabase_filled, change_filled]; rfl
  | dropDatabase => rw [run, dropDatabase_filled, change_filled]; rfl
  | createTable => rw [run, createTable_filled, change_filled]; rfl
  | getTable => rw [run, getTable_filled]; rfl
  | listTables => rw [run, findTables_filled]; rfl
  | dropTable => rw [run, dropTable_filled, change_filled]; rfl
  | addPartition catalog db table record fresh =>
    rw [run, addPartition_filled]
    cases added : contents.addPartition false catalog db table record fresh <;>
      simp only [run, added] <;> rfl
  | getPartition => rw [run, getPartition_filled]; rfl
  | listPartitions => rw [run, findPartitions_filled]; rfl
  | dropPartition => rw [run, dropPartitions_filled, change_filled]; rfl
  | dropPartitions => rw [run, dropPartitions_filled, change_filled]; rfl

end TableCatalog
