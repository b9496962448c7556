import TableCatalog.Proofs.CascadingDrops

/-! Where operations work. Each of them works at one place, which is a
table, a database or a catalog: it sees what stands there and nothing else,
and leaves something else there or takes it away. Work at a table is also
work at its database, and work at a database is work at its catalog. -/

namespace TableCatalog

def Operation.catalog : Operation → String
  | createDatabase catalog _ _ | listDatabases catalog _ | getDatabase catalog _
  | alterDatabase catalog _ _ | dropDatabase catalog _
  | createTable catalog _ _ _ | listTables catalog _ _ | getTable catalog _ _
  | dropTable catalog _ _ | addPartition catalog _ _ _ _
  | getPartition catalog _ _ _ _ | listPartitions catalog _ _ _
  | dropPartition catalog _ _ _ | dropPartitions catalog _ _ _ => catalog

/-- Work on what stands at a place: a fault, or an outcome and what is left there. -/
abbrev Work (ε : Type) := ε → Except Fault (Outcome × Option ε)

namespace Index

section Modify

variable {ε : Type} {index : Index ε} {id other : String} {node : ε}

/-- Puts something else in the place of an entity that is there. -/
def modify (index : Index ε) (id : String) (change : ε → ε) : Index ε :=
  (index.node? id).elim index fun node => index.put id (change node)

theorem node?_modify {change : ε → ε} :
    (index.modify id change).node? other = if other = id then (index.node? id).map change
      else index.node? other := by
  unfold modify
  cases held : index.node? id with
  | none =>
    split
    next same => rw [same]; exact held
    next => rfl
  | some node => exact node?_put

theorem put_put (later : ε) : (index.put id node).put id later = index.put id later := by
  simp only [put, SortedMap.insert_insert]

theorem modify_modify (change next : ε → ε) :
    (index.modify id change).modify id next = index.modify id (next ∘ change) := by
  unfold modify
  cases held : index.node? id with
  | none => simp only [Option.elim_none, held]
  | some node => simp only [Option.elim_some, node?_put, if_true, put_put, Function.comp_apply]

theorem put_self (held : index.node? id = some node) : index.put id node = index := by
  rw [put, SortedMap.insert_self held]

theorem put_comm (apart : id ≠ other) (node otherNode : ε) :
    (index.put id node).put other otherNode = (index.put other otherNode).put id node := by
  simp only [put, SortedMap.insert_comm (mt Bytes.ofText_injective apart) index.entries]

theorem remove_put_comm (apart : id ≠ other) (name : String) :
    (index.put other node).remove name id = (index.remove name id).put other node := by
  simp only [put, remove, SortedMap.erase_insert_comm (mt Bytes.ofText_injective apart)]

theorem remove_comm (name otherName : String) :
    (index.remove name id).remove otherName other =
      (index.remove otherName other).remove name id := by
  simp only [remove, SortedMap.erase_comm index.names,
    SortedMap.erase_comm index.entries (Bytes.ofText id)]

end Modify

variable {ε ρ : Type} [Wire.Message ρ] [Node ε ρ] {index : Index ε} {id other : String} {node : ε}

/-- Leaves something else of an entity that is there, or takes it away with its name. -/
def write (index : Index ε) (id : String) (left : Option ε) : Index ε :=
  match index.node? id, left with
  | none, _ => index
  | some _, some node => index.put id node
  | some before, none => index.remove (nameOf (Node.ident before)) id

theorem write_absent (absent : index.node? id = none) (left : Option ε) :
    index.write id left = index := by
  simp only [write, absent]

theorem write_some (held : index.node? id = some node) (later : ε) :
    index.write id (some later) = index.put id later := by
  simp only [write, held]

theorem write_none (held : index.node? id = some node) :
    index.write id none = index.remove (nameOf (Node.ident node)) id := by
  simp only [write, held]

theorem write_self (held : index.node? id = some node) :
    index.write id (some node) = index := by rw [write_some held, put_self held]

theorem node?_write (apart : other ≠ id) (left : Option ε) :
    (index.write id left).node? other = index.node? other := by
  cases held : index.node? id with
  | none => rw [write_absent held]
  | some node =>
    cases left with
    | some later => rw [write_some held, node?_put, if_neg apart]
    | none => rw [write_none held, node?_remove, if_neg apart]

theorem write_comm (apart : id ≠ other) (left right : Option ε) :
    (index.write id left).write other right = (index.write other right).write id left := by
  have kept : (index.write other right).node? id = index.node? id := node?_write apart right
  have keptOther : (index.write id left).node? other = index.node? other :=
    node?_write (Ne.symm apart) left
  cases held : index.node? id with
  | none => rw [write_absent held, write_absent (kept.trans held)]
  | some node =>
    cases heldOther : index.node? other with
    | none => rw [write_absent heldOther, write_absent (keptOther.trans heldOther)]
    | some otherNode =>
      cases left with
      | some later =>
        cases right with
        | some otherLater =>
          rw [write_some (keptOther.trans heldOther), write_some held,
            write_some (kept.trans held), write_some heldOther, put_comm apart]
        | none =>
          rw [write_none (keptOther.trans heldOther), write_some held,
            write_some (kept.trans held), write_none heldOther,
            remove_put_comm (Ne.symm apart)]
      | none =>
        cases right with
        | some otherLater =>
          rw [write_some (keptOther.trans heldOther), write_none held,
            write_none (kept.trans held), write_some heldOther, remove_put_comm apart]
        | none =>
          rw [write_none (keptOther.trans heldOther), write_none held,
            write_none (kept.trans held), write_none heldOther, remove_comm]

end Index

namespace Contents

variable {contents : Contents} {catalog other owner id : String}
  {db table : Ident} {missing : Fault}

/-- Leaves a catalog with these databases, or leaves all as it is. -/
def writeCatalog (contents : Contents) (catalog : String)
    (left : Option (Index DatabaseNode)) : Contents :=
  left.elim contents fun index => contents.insert catalog index

def modifyCatalog (contents : Contents) (catalog : String)
    (change : Index DatabaseNode → Index DatabaseNode) : Contents :=
  contents.writeCatalog catalog ((contents.find? catalog).map change)

def writeDatabase (contents : Contents) (catalog id : String)
    (left : Option DatabaseNode) : Contents :=
  contents.modifyCatalog catalog fun index => index.write id left

def writeTable (contents : Contents) (catalog owner id : String)
    (left : Option TableNode) : Contents :=
  contents.modifyCatalog catalog fun index => index.modify owner fun node =>
    { node with tables := node.tables.write id left }

theorem modifyCatalog_modifyCatalog (change next : Index DatabaseNode → Index DatabaseNode) :
    (contents.modifyCatalog catalog change).modifyCatalog catalog next =
      contents.modifyCatalog catalog (next ∘ change) := by
  unfold modifyCatalog
  cases there : contents.find? catalog with
  | none => simp only [Option.map_none, writeCatalog, Option.elim_none, there]
  | some index =>
    simp only [Option.map_some, writeCatalog, Option.elim_some,
      SortedMap.find?_insert, if_true, SortedMap.insert_insert, Function.comp_apply]

theorem find?_writeCatalog (apart : other ≠ catalog) (left : Option (Index DatabaseNode)) :
    (contents.writeCatalog catalog left).find? other = contents.find? other := by
  cases left with
  | none => rfl
  | some index => exact (SortedMap.find?_insert ..).trans (if_neg apart)

theorem writeCatalog_comm (apart : catalog ≠ other) (left right : Option (Index DatabaseNode)) :
    (contents.writeCatalog catalog left).writeCatalog other right =
      (contents.writeCatalog other right).writeCatalog catalog left := by
  cases left with
  | none => rfl
  | some index =>
    cases right with
    | none => rfl
    | some otherIndex => exact SortedMap.insert_comm apart ..

theorem database?_modifyCatalog (change : Index DatabaseNode → Index DatabaseNode) :
    (contents.modifyCatalog catalog change).database? catalog id =
      (contents.find? catalog).bind fun index => (change index).node? id := by
  rw [database?, modifyCatalog]
  cases there : contents.find? catalog with
  | none => simp only [Option.map_none, writeCatalog, Option.elim_none, there, Option.bind_none]
  | some index =>
    simp only [Option.map_some, writeCatalog, Option.elim_some,
      SortedMap.find?_insert, if_true, Option.bind_some]

theorem database?_writeDatabase (apart : other ≠ id) (left : Option DatabaseNode) :
    (contents.writeDatabase catalog id left).database? catalog other =
      contents.database? catalog other := by
  rw [writeDatabase, database?_modifyCatalog, database?]
  simp only [Index.node?_write apart]

theorem writeDatabase_comm (apart : id ≠ other) (left right : Option DatabaseNode) :
    (contents.writeDatabase catalog id left).writeDatabase catalog other right =
      (contents.writeDatabase catalog other right).writeDatabase catalog id left := by
  simp only [writeDatabase, modifyCatalog_modifyCatalog]
  congr 1
  funext index
  exact index.write_comm apart left right

theorem database?_writeTable (left : Option TableNode) :
    (contents.writeTable catalog owner id left).database? catalog owner =
      (contents.database? catalog owner).map fun node =>
        { node with tables := node.tables.write id left } := by
  rw [writeTable, database?_modifyCatalog, database?]
  simp only [Index.node?_modify, if_true]
  cases contents.find? catalog <;> rfl

theorem table?_writeTable (apart : other ≠ id) (left : Option TableNode) :
    (contents.writeTable catalog owner id left).table? catalog owner other =
      contents.table? catalog owner other := by
  rw [table?_eq, database?_writeTable, table?_eq, Option.bind_map]
  simp only [Function.comp_def, Index.node?_write apart]

theorem writeTable_comm (apart : id ≠ other) (left right : Option TableNode) :
    (contents.writeTable catalog owner id left).writeTable catalog owner other right =
      (contents.writeTable catalog owner other right).writeTable catalog owner id left := by
  simp only [writeTable, modifyCatalog_modifyCatalog]
  congr 1
  funext index
  simp only [Function.comp_apply, Index.modify_modify]
  congr 1
  funext node
  simp only [Function.comp_apply, node.tables.write_comm apart]

section Found

variable {found : FoundDatabase} (here : contents.database catalog db = .ok found)
include here

theorem writeDatabase_found (left : Option DatabaseNode) :
    contents.writeDatabase catalog found.id left =
      contents.insert catalog (found.index.write found.id left) := by
  rw [writeDatabase, modifyCatalog, (database_eq_ok.1 here).1]
  rfl

theorem setDatabase_eq_write (node : DatabaseNode) :
    contents.setDatabase catalog found node =
      contents.writeDatabase catalog found.id (some node) := by
  rw [writeDatabase_found here, Index.write_some (database_eq_ok.1 here).2.2]
  rfl

theorem writeTable_found (left : Option TableNode) :
    contents.writeTable catalog found.id id left = contents.writeDatabase catalog found.id
      (some { found.node with tables := found.node.tables.write id left }) := by
  obtain ⟨there, -, held⟩ := database_eq_ok.1 here
  rw [← setDatabase_eq_write here, writeTable, modifyCatalog, there, Option.map_some]
  simp only [Index.modify, held]
  rfl

end Found

theorem writeDatabase_self {node : DatabaseNode}
    (there : contents.database? catalog id = some node) :
    contents.writeDatabase catalog id (some node) = contents := by
  obtain ⟨index, stood, held⟩ := Option.bind_eq_some_iff.1 there
  rw [writeDatabase, modifyCatalog, stood, Option.map_some, index.write_self held]
  exact SortedMap.insert_self stood

theorem writeTable_self {node : TableNode} (there : contents.table? catalog owner id = some node) :
    contents.writeTable catalog owner id (some node) = contents := by
  obtain ⟨inside, stood, held⟩ := Option.bind_eq_some_iff.1 there
  obtain ⟨index, placed, owned⟩ := Option.bind_eq_some_iff.1 stood
  rw [writeTable, modifyCatalog, placed, Option.map_some]
  simp only [Index.modify, owned, Option.elim_some, inside.tables.write_self held,
    index.put_self owned]
  exact SortedMap.insert_self placed

def workCatalog (contents : Contents) (catalog : String)
    (work : Option (Index DatabaseNode) → Except Fault (Outcome × Option (Index DatabaseNode))) :
    Except Fault Outcome × Contents :=
  contents.change (fun outcome => outcome) do
    let (outcome, left) ← work (contents.find? catalog)
    return (outcome, contents.writeCatalog catalog left)

def workDatabase (contents : Contents) (catalog : String) (db : Ident) (work : Work DatabaseNode) :
    Except Fault Outcome × Contents :=
  contents.change (fun outcome => outcome) do
    let found ← contents.database catalog db
    let (outcome, left) ← work found.node
    return (outcome, contents.writeDatabase catalog found.id left)

def workTable (contents : Contents) (catalog : String) (db table : Ident)
    (missing : Fault) (work : Work TableNode) : Except Fault Outcome × Contents :=
  contents.change (fun outcome => outcome) do
    let found ← contents.table catalog db table missing
    let (outcome, left) ← work found.node
    return (outcome, contents.writeTable catalog found.db.id found.id left)

end Contents

/-- What work leaves where it finds a node; work that fails leaves the node. -/
def Work.left {ε : Type} (work : Work ε) (node : ε) : Option ε :=
  match work node with
  | .error _ => some node
  | .ok done => done.2

/-- Work at a table, as its database sees it. -/
def Work.inDatabase (work : Work TableNode) (table : Ident) (missing : Fault) :
    Work DatabaseNode := fun node => do
  let (id, inside) ← node.tables.find .table table missing
  let (outcome, left) ← work inside
  return (outcome, some { node with tables := node.tables.write id left })

/-- Work at a database, as its catalog sees it. -/
def Work.inCatalog (work : Work DatabaseNode) (catalog : String) (db : Ident) :
    Option (Index DatabaseNode) → Except Fault (Outcome × Option (Index DatabaseNode)) :=
  fun opened => do
    let index ← opened.elim (.error (.absent ("catalog " ++ catalog))) .ok
    let (id, node) ← index.find .database db (.absent ("database " ++ db.text))
    let (outcome, left) ← work node
    return (outcome, some (index.write id left))

namespace Contents

variable (contents : Contents) (catalog : String) (db table : Ident) (missing : Fault)

theorem workTable_eq (work : Work TableNode) :
    contents.workTable catalog db table missing work =
      contents.workDatabase catalog db (work.inDatabase table missing) := by
  unfold workTable workDatabase Work.inDatabase Contents.table
  congr 1
  cases here : contents.database catalog db with
  | error fault => rfl
  | ok found =>
    simp only [bind, Except.bind]
    cases found.node.tables.find .table table missing with
    | error fault => rfl
    | ok located =>
      simp only [pure, Except.pure]
      cases work located.2 with
      | error fault => rfl
      | ok done => simp only [writeTable_found here]

theorem workDatabase_eq (work : Work DatabaseNode) :
    contents.workDatabase catalog db work =
      contents.workCatalog catalog (work.inCatalog catalog db) := by
  unfold workDatabase workCatalog Work.inCatalog
  congr 1
  cases there : contents.find? catalog with
  | none =>
    simp only [database, Contents.catalog, there]
    rfl
  | some index =>
    simp only [database, Contents.catalog, there, bind, Except.bind, Option.elim_some]
    cases found : index.find .database db (.absent ("database " ++ db.text)) with
    | error fault => rfl
    | ok located =>
      obtain ⟨resolved, held⟩ := Index.find_eq_ok.1 found
      simp only [pure, Except.pure]
      cases work located.2 with
      | error fault => rfl
      | ok done => simp only [writeDatabase, modifyCatalog, there, Option.map_some]

theorem workDatabase_found {contents : Contents} {catalog : String}
    {db : Ident} {found : FoundDatabase} (here : contents.database catalog db = .ok found)
    (work : Work DatabaseNode) :
    contents.workDatabase catalog db work = ((work found.node).map (·.1),
      contents.writeDatabase catalog found.id (work.left found.node)) := by
  rw [workDatabase, here, Work.left]
  simp only [bind, Except.bind]
  cases work found.node with
  | error fault => exact Prod.ext rfl (writeDatabase_self (database?_of_database here)).symm
  | ok done => rfl

theorem workTable_found {contents : Contents} {catalog : String}
    {db table : Ident} {missing : Fault} {found : FoundTable}
    (here : contents.table catalog db table missing = .ok found) (work : Work TableNode) :
    contents.workTable catalog db table missing work =
      ((work found.node).map (·.1),
        contents.writeTable catalog found.db.id found.id (work.left found.node)) := by
  rw [workTable, here, Work.left]
  simp only [bind, Except.bind]
  cases work found.node with
  | error fault => exact Prod.ext rfl (writeTable_self (table?_of_table here)).symm
  | ok done => rfl

/-- A question leaves what it sees. -/
theorem ask_table {α : Type} (answer : TableNode → Except Fault α) (wrap : α → Outcome) :
    ((contents.table catalog db table missing >>= fun found => answer found.node).map wrap,
      contents) =
      contents.workTable catalog db table missing fun node =>
        (answer node).map fun value => (wrap value, some node) := by
  unfold workTable
  cases here : contents.table catalog db table missing with
  | error fault => rfl
  | ok found =>
    simp only [bind, Except.bind]
    cases answer found.node with
    | error fault => rfl
    | ok value =>
      simp only [Except.map, change, pure, Except.pure]
      rw [writeTable_self (table?_of_table here)]

theorem ask_database {α : Type} (answer : DatabaseNode → Except Fault α) (wrap : α → Outcome) :
    ((contents.database catalog db >>= fun found => answer found.node).map wrap, contents) =
      contents.workDatabase catalog db fun node => (answer node).map fun value =>
        (wrap value, some node) := by
  unfold workDatabase
  cases here : contents.database catalog db with
  | error fault => rfl
  | ok found =>
    simp only [bind, Except.bind]
    cases answer found.node with
    | error fault => rfl
    | ok value =>
      simp only [Except.map, change, pure, Except.pure]
      rw [writeDatabase_self (database?_of_database here)]

variable {contents catalog db table missing}

theorem change_table {α : Type} {wrap : α → Outcome}
    {body : FoundTable → Except Fault (α × Contents)}
    {work : TableNode → Except Fault (α × Option TableNode)}
    (same : ∀ found, contents.table catalog db table missing = .ok found →
      body found = (work found.node).map fun done =>
        (done.1, contents.writeTable catalog found.db.id found.id done.2)) :
    contents.change wrap (contents.table catalog db table missing >>= body) =
      contents.workTable catalog db table missing fun node =>
        (work node).map fun done => (wrap done.1, done.2) := by
  unfold workTable
  cases here : contents.table catalog db table missing with
  | error fault => rfl
  | ok found =>
    simp only [bind, Except.bind, same found here]
    cases work found.node <;> rfl

theorem change_database {α : Type} {wrap : α → Outcome}
    {body : FoundDatabase → Except Fault (α × Contents)}
    {work : DatabaseNode → Except Fault (α × Option DatabaseNode)}
    (same : ∀ found, contents.database catalog db = .ok found →
      body found = (work found.node).map fun done =>
        (done.1, contents.writeDatabase catalog found.id done.2)) :
    contents.change wrap (contents.database catalog db >>= body) =
      contents.workDatabase catalog db fun node => (work node).map fun done =>
        (wrap done.1, done.2) := by
  unfold workDatabase
  cases here : contents.database catalog db with
  | error fault => rfl
  | ok found =>
    simp only [bind, Except.bind, same found here]
    cases work found.node <;> rfl

theorem setShelf_eq_write {found : FoundTable}
    (here : contents.table catalog db table missing = .ok found) (shelf : Shelf) :
    contents.setShelf catalog found shelf = contents.writeTable catalog found.db.id found.id
      (some { found.node with shelf := some shelf }) := by
  obtain ⟨placed, -, held⟩ := table_eq_ok.1 here
  rw [writeTable_found placed, ← setDatabase_eq_write placed, Index.write_some held]
  rfl

end Contents

namespace TableNode

variable (node : TableNode)

private def added (fill : Bool) (record : Partition) (fresh key : String) (taken : Fault) :
    Except Fault (Partition × Option TableNode) :=
  let shelf := node.shelf.getD {}
  let result := Contents.kept fill record fresh (shelf.count + 1)
  if (shelf.rows.find? (Bytes.ofText key)).isSome then .error taken
  else .ok (result, some { node with
    shelf := some ⟨shelf.count + 1, shelf.rows.insert (Bytes.ofText key) result⟩ })

private def got (key : String) (shown : List String) (missing : Fault) : Except Fault Partition :=
  match (node.shelf.getD {}).rows.find? (Bytes.ofText key) with
  | none => .error missing
  | some record => .ok (Contents.shownPartition record node.record shown)

private def listed (listing : PartitionListing) (keys : List String) : List Partition :=
  attachToFirst (if admits listing.shown listing.hidden tablePath then some node.record else none)
    ((Contents.picked (node.shelf.getD {}).rows keys).map fun record =>
      Projectable.project record.fillLocation listing.shown listing.hidden)

private def dropped (keys : List String) (missing : String → Fault) :
    Except Fault (Nat × Option TableNode) :=
  let shelf := node.shelf.getD {}
  match keys.find? fun key => (shelf.rows.find? (Bytes.ofText key)).isNone with
  | some key => .error (missing key)
  | none =>
    .ok (keys.length, some { node with shelf := some ⟨shelf.count,
      shelf.rows.removeWhere fun row => (keys.map Bytes.ofText).contains row⟩ })

end TableNode

namespace Operation

variable {options : StoreOptions} {operation : Operation} {catalog : String} {db table : Ident}

/-- The answer needs no look at what is there. -/
def Once (options : StoreOptions) (operation : Operation) : Prop :=
  ∃ result, ∀ contents : Contents, contents.run options operation = (result, contents)

def AtTable (options : StoreOptions) (operation : Operation)
    (catalog : String) (db table : Ident) : Prop :=
  operation.Once options ∨ ∃ missing work, ∀ contents : Contents,
  contents.run options operation = contents.workTable catalog db table missing work

def AtDatabase (options : StoreOptions) (operation : Operation)
    (catalog : String) (db : Ident) : Prop :=
  operation.Once options ∨ ∃ work, ∀ contents : Contents,
  contents.run options operation = contents.workDatabase catalog db work

def AtCatalog (options : StoreOptions) (operation : Operation) (catalog : String) : Prop :=
  ∃ work, ∀ contents : Contents, contents.run options operation = contents.workCatalog catalog work

theorem AtTable.atDatabase (works : operation.AtTable options catalog db table) :
    operation.AtDatabase options catalog db := by
  apply works.imp_right
  intro ⟨missing, work, runs⟩
  exact ⟨work.inDatabase table missing,
    fun contents => (runs contents).trans (contents.workTable_eq catalog db table missing work)⟩

theorem AtDatabase.atCatalog (works : operation.AtDatabase options catalog db) :
    operation.AtCatalog options catalog := by
  obtain ⟨result, answers⟩ | ⟨work, runs⟩ := works
  · refine ⟨fun _ => result.map fun outcome => (outcome, none),
      fun contents => (answers contents).trans ?_⟩
    cases result <;> rfl
  · exact ⟨work.inCatalog catalog db,
      fun contents => (runs contents).trans (contents.workDatabase_eq catalog db work)⟩

theorem Once.refused {fault : Fault}
    (answers : ∀ contents : Contents, contents.run options operation = (.error fault, contents)) :
    operation.Once options :=
  ⟨.error fault, answers⟩

section Shapes

variable {α : Type} {wrap : α → Outcome}

theorem AtTable.of_question {missing : Fault} (answer : TableNode → Except Fault α)
    (asks : ∀ contents : Contents, contents.run options operation =
      ((contents.table catalog db table missing >>= fun found => answer found.node).map wrap,
        contents)) : operation.AtTable options catalog db table :=
  .inr ⟨missing, _, fun contents =>
    (asks contents).trans (contents.ask_table catalog db table missing answer wrap)⟩

theorem AtTable.of_change {missing : Fault} (work : TableNode → Except Fault (α × Option TableNode))
    {body : Contents → Contents.FoundTable → Except Fault (α × Contents)}
    (changes : ∀ contents : Contents, contents.run options operation =
        contents.change wrap (contents.table catalog db table missing >>= body contents))
    (same : ∀ (contents : Contents) found, contents.table catalog db table missing = .ok found →
      body contents found = (work found.node).map fun done =>
        (done.1, contents.writeTable catalog found.db.id found.id done.2)) :
    operation.AtTable options catalog db table :=
  .inr ⟨missing, _, fun contents =>
    (changes contents).trans (Contents.change_table (same contents))⟩

theorem AtDatabase.of_question (answer : DatabaseNode → Except Fault α)
    (asks : ∀ contents : Contents, contents.run options operation =
      ((contents.database catalog db >>= fun found => answer found.node).map wrap, contents)) :
      operation.AtDatabase options catalog db :=
  .inr ⟨_, fun contents => (asks contents).trans (contents.ask_database catalog db answer wrap)⟩

theorem AtDatabase.of_change (work : DatabaseNode → Except Fault (α × Option DatabaseNode))
    {body : Contents → Contents.FoundDatabase → Except Fault (α × Contents)}
    (changes : ∀ contents : Contents, contents.run options operation =
        contents.change wrap (contents.database catalog db >>= body contents))
    (same : ∀ (contents : Contents) found, contents.database catalog db = .ok found →
      body contents found =
      (work found.node).map fun done => (done.1, contents.writeDatabase catalog found.id done.2)) :
    operation.AtDatabase options catalog db :=
  .inr ⟨_, fun contents => (changes contents).trans (Contents.change_database (same contents))⟩

end Shapes

private theorem getTable_works : (getTable catalog db table).AtTable options catalog db table := by
  cases checked : Request.requireTable catalog db table with
  | error fault =>
    exact .inl (.refused fun contents => by
      simp only [Contents.run, Contents.getTable, checked]; rfl)
  | ok =>
    apply AtTable.of_question fun node => .ok node.record
    intro contents
    simp only [Contents.run, Contents.getTable, checked]
    rfl

private theorem dropTable_works :
    (dropTable catalog db table).AtTable options catalog db table := by
  cases checked : Request.requireTable catalog db table with
  | error fault =>
    exact .inl (.refused fun contents => by
      simp only [Contents.run, Contents.dropTable, checked]; rfl)
  | ok =>
    apply AtTable.of_change fun _ => .ok ((), none)
    · intro contents
      simp only [Contents.run, Contents.dropTable, checked]
      rfl
    · intro contents found here
      obtain ⟨placed, -, held⟩ := Contents.table_eq_ok.1 here
      rw [Contents.setTables, Contents.setDatabase_eq_write placed,
        Except.map, Contents.writeTable_found placed, Index.write_none held]
      rfl

private theorem addPartition_works {record : Partition} {fresh : String} :
    (addPartition catalog db table record fresh).AtTable options catalog db table := by
  cases checked : Request.requireTable catalog db table with
  | error fault =>
    exact .inl (.refused fun contents => by
      simp only [Contents.run, Contents.addPartition, checked]; rfl)
  | ok =>
    cases keyed : Request.partitionKey record.values with
    | error fault =>
      exact .inl (.refused fun contents => by
        simp only [Contents.run, Contents.addPartition, checked, keyed]; rfl)
    | ok key =>
      apply AtTable.of_change fun node =>
        node.added options.fillLocation record fresh key (.taken (partitionText db table key))
      · intro contents
        simp only [Contents.run, Contents.addPartition, checked, keyed]
        rfl
      · intro contents found here
        simp only [TableNode.added]
        split
        next => rfl
        next => rw [Except.map, ← Contents.setShelf_eq_write here]; rfl

private theorem getPartition_works {values shown : List String} :
    (getPartition catalog db table values shown).AtTable options catalog db table := by
  cases checked : Request.requireTable catalog db table with
  | error fault =>
    exact .inl (.refused fun contents => by
      simp only [Contents.run, Contents.getPartition, checked]; rfl)
  | ok =>
    cases keyed : Request.partitionKey values with
    | error fault =>
      exact .inl (.refused fun contents => by
        simp only [Contents.run, Contents.getPartition, checked, keyed]; rfl)
    | ok key =>
      apply AtTable.of_question fun node =>
        node.got key shown (.absent (partitionText db table key))
      intro contents
      simp only [Contents.run, Contents.getPartition, checked, keyed]
      rfl

private theorem listPartitions_works {listing : PartitionListing} :
    (listPartitions catalog db table listing).AtTable options catalog db table := by
  cases checked : Request.requireTable catalog db table with
  | error fault =>
    exact .inl (.refused fun contents => by
      simp only [Contents.run, Contents.findPartitions, checked]; rfl)
  | ok =>
    cases keyed : Request.partitionKeys listing.filter with
    | error fault =>
      exact .inl (.refused fun contents => by
        simp only [Contents.run, Contents.findPartitions, checked, keyed]; rfl)
    | ok keys =>
      apply AtTable.of_question fun node => .ok (node.listed listing keys)
      intro contents
      simp only [Contents.run, Contents.findPartitions, checked, keyed]
      rfl

private theorem dropPartitions_works {tuples : List (List String)} {wrap : Nat → Outcome}
    (changes : ∀ contents : Contents, contents.run options operation =
        contents.change wrap (contents.dropPartitions catalog db table tuples)) :
    operation.AtTable options catalog db table := by
  cases checked : Request.requireTable catalog db table with
  | error fault =>
    exact .inl (.refused fun contents => by
      simp only [changes, Contents.dropPartitions, checked]; rfl)
  | ok =>
    cases keyed : Request.partitionKeys tuples with
    | error fault =>
      exact .inl (.refused fun contents => by
        simp only [changes, Contents.dropPartitions, checked, keyed]; rfl)
    | ok keys =>
      cases keys with
      | nil =>
        exact .inl ⟨.ok (wrap 0),
          fun contents => by simp only [changes, Contents.dropPartitions, checked, keyed]; rfl⟩
      | cons first rest =>
        apply AtTable.of_change fun node => node.dropped (first :: rest) fun key =>
          .absent (partitionText db table key)
        · intro contents
          simp only [changes, Contents.dropPartitions, checked, keyed]
          rfl
        · intro contents found here
          cases absent : (first :: rest).find? fun key =>
            ((found.node.shelf.getD {}).rows.find? (Bytes.ofText key)).isNone with
          | some key => simp only [TableNode.dropped, absent]; rfl
          | none =>
            simp only [TableNode.dropped, absent, Except.map,
              ← Contents.setShelf_eq_write here]
            rfl

/-- An operation on a table, or on partitions of it, works at that table. -/
theorem atTable (options : StoreOptions) (asked : operation.table? = some (catalog, db, table)) :
    operation.AtTable options catalog db table := by
  cases operation with
  | getTable => cases asked; exact getTable_works
  | dropTable => cases asked; exact dropTable_works
  | addPartition => cases asked; exact addPartition_works
  | getPartition => cases asked; exact getPartition_works
  | listPartitions => cases asked; exact listPartitions_works
  | dropPartition => cases asked; exact dropPartitions_works fun _ => rfl
  | dropPartitions => cases asked; exact dropPartitions_works fun _ => rfl
  | _ => cases asked

private theorem getDatabase_works : (getDatabase catalog db).AtDatabase options catalog db := by
  cases checked : Request.requireCatalog catalog with
  | error fault =>
    exact .inl (.refused fun contents => by
      simp only [Contents.run, Contents.getDatabase, checked]; rfl)
  | ok =>
    cases formed : Request.requireIdent .database db with
    | error fault =>
      exact .inl (.refused fun contents => by
        simp only [Contents.run, Contents.getDatabase, checked, formed]; rfl)
    | ok =>
      apply AtDatabase.of_question fun node => .ok node.record
      intro contents
      simp only [Contents.run, Contents.getDatabase, checked, formed]
      rfl

private theorem listTables_works {shown : List String} :
    (listTables catalog db shown).AtDatabase options catalog db := by
  cases checked : Request.requireCatalog catalog with
  | error fault =>
    exact .inl (.refused fun contents => by
      simp only [Contents.run, Contents.findTables, checked]; rfl)
  | ok =>
    cases formed : Request.requireIdent .database db with
    | error fault =>
      exact .inl (.refused fun contents => by
        simp only [Contents.run, Contents.findTables, checked, formed]; rfl)
    | ok =>
      apply AtDatabase.of_question fun node =>
        .ok (node.tables.entries.toList.map fun row => Projectable.project row.2.record shown [])
      intro contents
      simp only [Contents.run, Contents.findTables, checked, formed]
      rfl

private theorem alterDatabase_works {changes : Database} :
    (alterDatabase catalog db changes).AtDatabase options catalog db := by
  cases checked : Request.requireCatalog catalog with
  | error fault =>
    exact .inl (.refused fun contents => by
      simp only [Contents.run, Contents.alterDatabase, checked]; rfl)
  | ok =>
    cases formed : Request.requireIdent .database db with
    | error fault =>
      exact .inl (.refused fun contents => by
        simp only [Contents.run, Contents.alterDatabase, checked, formed]; rfl)
    | ok =>
      apply AtDatabase.of_change fun node =>
        .ok (node.record.alter changes, some { node with record := node.record.alter changes })
      · intro contents
        simp only [Contents.run, Contents.alterDatabase, checked, formed]
        rfl
      · intro contents found here
        rw [Except.map, ← Contents.setDatabase_eq_write here]
        rfl

private theorem dropDatabase_works : (dropDatabase catalog db).AtDatabase options catalog db := by
  cases checked : Request.requireCatalog catalog with
  | error fault =>
    exact .inl (.refused fun contents => by
      simp only [Contents.run, Contents.dropDatabase, checked]; rfl)
  | ok =>
    cases formed : Request.requireIdent .database db with
    | error fault =>
      exact .inl (.refused fun contents => by
        simp only [Contents.run, Contents.dropDatabase, checked, formed]; rfl)
    | ok =>
      apply AtDatabase.of_change fun _ => .ok ((), none)
      · intro contents
        simp only [Contents.run, Contents.dropDatabase, checked, formed]
        rfl
      · intro contents found here
        rw [Except.map, Contents.writeDatabase_found here,
          Index.write_none (Contents.database_eq_ok.1 here).2.2]
        rfl

private theorem createTable_works {record : Table} {fresh : String} :
    (createTable catalog db record fresh).AtDatabase options catalog db := by
  cases checked : Request.requireCatalog catalog with
  | error fault =>
    exact .inl (.refused fun contents => by
      simp only [Contents.run, Contents.createTable, checked]; rfl)
  | ok =>
    cases formed : Request.requireIdent .database db with
    | error fault =>
      exact .inl (.refused fun contents => by
        simp only [Contents.run, Contents.createTable, checked, formed]; rfl)
    | ok =>
      cases named : Request.requireName .table record.ident with
      | error fault =>
        exact .inl (.refused fun contents => by
          simp only [Contents.run, Contents.createTable, checked, formed, named]; rfl)
      | ok name =>
        let created (node : DatabaseNode) : Except Fault (Table × Option DatabaseNode) :=
          let result : Table :=
            { record with ident := some ⟨name, fresh⟩, sequence := node.tables.count + 1 }
          if (node.tables.id? name).isSome
            then .error (.taken ("table " ++ catalog ++ ":" ++ db.text ++ "." ++ name))
          else .ok (result, some { node with
            tables := node.tables.add name fresh { record := result } })
        apply AtDatabase.of_change created
        · intro contents
          simp only [Contents.run, Contents.createTable, checked, formed, named]
          rfl
        · intro contents found here
          simp only [created]
          split
          next => rfl
          next => rw [Except.map, ← Contents.setDatabase_eq_write here]; rfl

/-- An operation on a database, or on tables or partitions in it, works at that database. -/
theorem atDatabase (options : StoreOptions) (asked : operation.database? = some (catalog, db)) :
    operation.AtDatabase options catalog db := by
  cases operation with
  | getDatabase => cases asked; exact getDatabase_works
  | alterDatabase => cases asked; exact alterDatabase_works
  | dropDatabase => cases asked; exact dropDatabase_works
  | createTable => cases asked; exact createTable_works
  | listTables => cases asked; exact listTables_works
  | createDatabase | listDatabases => cases asked
  | _ => cases asked; exact (atTable options rfl).atDatabase

private theorem createDatabase_works {record : Database} {fresh : String} :
    (createDatabase catalog record fresh).AtCatalog options catalog := by
  cases checked : Request.requireCatalog catalog with
  | error fault =>
    exact ⟨fun _ => .error fault,
      fun contents => by simp only [Contents.run, Contents.createDatabase, checked]; rfl⟩
  | ok =>
    cases named : Request.requireName .database record.ident with
    | error fault =>
      exact ⟨fun _ => .error fault,
        fun contents => by simp only [Contents.run, Contents.createDatabase, checked, named]; rfl⟩
    | ok name =>
      let created (opened : Option (Index DatabaseNode)) :
          Except Fault (Outcome × Option (Index DatabaseNode)) :=
        let index := opened.getD {}
        let result : Database :=
          { record with ident := some ⟨name, fresh⟩, sequence := index.count + 1 }
        if (index.id? name).isSome then .error (.taken ("database " ++ name))
        else .ok (.database result, some (index.add name fresh { record := result }))
      refine ⟨created, fun contents => ?_⟩
      simp only [Contents.run, Contents.createDatabase, checked,
        named, Contents.workCatalog, created, bind, Except.bind]
      split <;> rfl

private theorem listDatabases_works {listing : DatabaseListing} :
    (listDatabases catalog listing).AtCatalog options catalog := by
  cases checked : Request.requireCatalog catalog with
  | error fault =>
    exact ⟨fun _ => .error fault,
      fun contents => by simp only [Contents.run, Contents.findDatabases, checked]; rfl⟩
  | ok =>
    refine ⟨fun opened => .ok (.databases ((opened.getD {}).entries.toList.map fun row =>
      listing.apply row.2.record), none), fun contents => ?_⟩
    simp only [Contents.run, Contents.findDatabases, checked]
    rfl

/-- Every operation works at the catalog that it names. -/
theorem atCatalog (options : StoreOptions) (operation : Operation) :
    operation.AtCatalog options operation.catalog := by
  cases operation with
  | createDatabase => exact createDatabase_works
  | listDatabases => exact listDatabases_works
  | _ => exact (atDatabase options rfl).atCatalog

end Operation
end TableCatalog
