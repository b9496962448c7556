import TableCatalog.Proofs.ContentsPlaces

/-! Operations that cannot meet commute. They share two tables, but what one of them leaves at its
place keeps what the other one sees at its own, and keeps the identities by which that place is
found. So either can go first. -/

namespace TableCatalog

open Region

namespace Operation

/-- The operations name different catalogs, or different
databases of one catalog, or different tables of one database. -/
inductive Independent (store : Store) (first second : Operation) : Prop
  | catalogs (apart : first.catalog ≠ second.catalog)
  | databases {catalog : String} {db otherDb : Ident}
      {id other : String} (named : first.database? = some (catalog, db))
      (otherNamed : second.database? = some (catalog, otherDb))
      (live : LiveDatabase store catalog db id)
      (otherLive : LiveDatabase store catalog otherDb other) (apart : id ≠ other)
  | tables {catalog : String} {db otherDb table otherTable : Ident}
      {owner id other : String} (named : first.table? = some (catalog, db, table))
      (otherNamed : second.table? = some (catalog, otherDb, otherTable))
      (live : LiveTable store catalog db table owner id)
      (otherLive : LiveTable store catalog otherDb otherTable owner other) (apart : id ≠ other)

/-- Whichever goes first, both answer the same and leave the same rows in both tables. -/
structure Commute (options : StoreOptions) (store : Store) (first second : Operation) : Prop where
  answers : (first.run options (second.run options store).2).1 = (first.run options store).1
  otherAnswers : (second.run options (first.run options store).2).1 = (second.run options store).1
  regions : (second.run options (first.run options store).2).2.regions =
    (first.run options (second.run options store).2).2.regions
  entries : (second.run options (first.run options store).2).2.entries =
    (first.run options (second.run options store).2).2.entries

end Operation

theorem Operation.Short.of_database {operation : Operation} {catalog : String}
    {db : Ident} (short : operation.Short) (named : operation.database? = some (catalog, db)) :
    Bytes.Short catalog := by
  cases operation with
  | createDatabase | listDatabases => cases named
  | _ => cases named; exact short.1

theorem Operation.database?_of_table {operation : Operation}
    {catalog : String} {db table : Ident} (named : operation.table? = some (catalog, db, table)) :
    operation.database? = some (catalog, db) := by
  cases operation <;> cases named <;> rfl

/-- What an operation on a table sees: the table, and the identity of the database around it. -/
def Contents.SeesTable (contents : Contents) (catalog owner : String)
    (ident : Option Ident) (id : String) (node : TableNode) : Prop :=
  (∃ inside, contents.database? catalog owner = some inside ∧ inside.record.ident = ident) ∧
  contents.table? catalog owner id = some node

namespace Operation

variable {options : StoreOptions} {operation first second : Operation}
  {catalog owner id other : String} {db table : Ident}

/-- Wherever these things are seen, the operation answers this and leaves that. -/
def Acts (options : StoreOptions) (operation : Operation) (sees : Contents → Prop)
    (result : Except Fault Outcome) (leaves : Contents → Contents) : Prop :=
  ∀ contents : Contents, contents.Sound → sees contents →
  contents.run options operation = (result, leaves contents)

theorem AtCatalog.acts (works : operation.AtCatalog options catalog)
    (seen : Option (Index DatabaseNode)) :
    ∃ result left, operation.Acts options (fun contents => contents.find? catalog = seen) result
      fun contents => contents.writeCatalog catalog left := by
  obtain ⟨work, runs⟩ := works
  cases worked : work seen with
  | error fault =>
    refine ⟨.error fault, none, fun contents _ here => ?_⟩
    rw [runs, Contents.workCatalog, here, worked]
    rfl
  | ok done =>
    refine ⟨.ok done.1, done.2, fun contents _ here => ?_⟩
    rw [runs, Contents.workCatalog, here, worked]
    rfl

theorem AtDatabase.acts (works : operation.AtDatabase options catalog db)
    {node : DatabaseNode} (calls : db.Calls (nameOf node.record.ident) id) :
    ∃ result left, operation.Acts options
      (fun contents => contents.database? catalog id = some node) result
      fun contents => contents.writeDatabase catalog id left := by
  obtain ⟨result, answers⟩ | ⟨work, runs⟩ := works
  · exact ⟨result, some node, fun contents _ here =>
      (answers contents).trans (Prod.ext rfl (Contents.writeDatabase_self here).symm)⟩
  · refine ⟨(work node).map (·.1), work.left node, fun contents sound here => ?_⟩
    obtain ⟨found, placed, rfl, rfl⟩ := sound.database_iff.2 ⟨here, calls⟩
    rw [runs, Contents.workDatabase_found placed]

theorem AtTable.acts (works : operation.AtTable options catalog db table)
    {ident : Option Ident} {node : TableNode} (owned : db.Calls (nameOf ident) owner)
    (calls : table.Calls (nameOf node.record.ident) id) :
    ∃ result left, operation.Acts options
      (fun contents => contents.SeesTable catalog owner ident id node) result
      fun contents => contents.writeTable catalog owner id left := by
  obtain ⟨result, answers⟩ | ⟨missing, work, runs⟩ := works
  · exact ⟨result, some node, fun contents _ here =>
      (answers contents).trans (Prod.ext rfl (Contents.writeTable_self here.2).symm)⟩
  · refine ⟨(work node).map (·.1), work.left node, fun contents sound here => ?_⟩
    obtain ⟨⟨inside, around, rfl⟩, there⟩ := here
    obtain ⟨found, placed, ⟨rfl, -⟩, rfl, rfl⟩ :=
      (sound.table_iff missing).2 ⟨⟨around, owned⟩, there, calls⟩
    rw [runs, Contents.workTable_found placed]

/-- Something left at another table of the database is not seen. -/
theorem sees_writeTable {contents : Contents} {ident : Option Ident}
    {node : TableNode} (sees : contents.SeesTable catalog owner ident id node)
    (apart : id ≠ other) (left : Option TableNode) :
    (contents.writeTable catalog owner other left).SeesTable catalog owner ident id node := by
  obtain ⟨⟨inside, around, named⟩, there⟩ := sees
  constructor
  · exact ⟨_, (Contents.database?_writeTable left).trans (congrArg _ around), named⟩
  · exact (Contents.table?_writeTable apart left).trans there

/-- Each of two operations still sees after the other what it saw before it, and it is the same to
leave one thing or the other first. -/
structure Apart (contents : Contents) (sees otherSees : Contents → Prop)
    (leaves otherLeaves : Contents → Contents) : Prop where
  here : sees contents
  there : otherSees contents
  kept : sees (otherLeaves contents)
  otherKept : otherSees (leaves contents)
  swap : otherLeaves (leaves contents) = leaves (otherLeaves contents)

end Operation

/-- There is one store only that holds given contents. -/
theorem Holds.unique {store other : Store} {contents : Contents}
    (holds : Holds store contents) (otherHolds : Holds other contents) : store = other := by
  have shown (path : Path) (short : path.Short) : store.counter? path = other.counter? path ∧
      ∀ key, store.get? path key = other.get? path key := by
    obtain ⟨count, entries⟩ := holds.shows path.root path.below short
    obtain ⟨otherCount, otherEntries⟩ := otherHolds.shows path.root path.below short
    exact ⟨count.trans otherCount.symm, fun key => (entries key).trans (otherEntries key).symm⟩
  have regions : store.regions = other.regions := by
    apply SortedMap.ext_find?
    intro key
    apply Option.ext
    intro count
    constructor
    · intro row
      obtain ⟨path, short, rfl⟩ := holds.keyed.regions key count row
      exact (shown path short).1.symm.trans row
    · intro row
      obtain ⟨path, short, rfl⟩ := otherHolds.keyed.regions key count row
      exact (shown path short).1.trans row
  have entries : store.entries = other.entries := by
    apply SortedMap.ext_find?
    intro key
    apply Option.ext
    intro value
    constructor
    · intro row
      obtain ⟨path, entry, short, rfl⟩ := holds.keyed.entries key value row
      exact ((shown path short).2 entry).symm.trans row
    · intro row
      obtain ⟨path, entry, short, rfl⟩ := otherHolds.keyed.entries key value row
      exact ((shown path short).2 entry).trans row
  cases store
  cases regions
  cases entries
  rfl

section Runs

variable {store : Store} {contents : Contents} {drawn : List String}
  {options : StoreOptions} {first second : Operation}

/-- Operations that act apart commute in every store that holds the contents. -/
theorem Reached.commute (reached : Reached store contents drawn)
    (short : first.Short) (otherShort : second.Short)
    (fresh : (drawn ++ (first.fresh?.toList ++ second.fresh?.toList)).Nodup)
    {sees otherSees : Contents → Prop} {leaves otherLeaves : Contents → Contents}
    {result otherResult : Except Fault Outcome} (acts : first.Acts options sees result leaves)
    (otherActs : second.Acts options otherSees otherResult otherLeaves)
    (apart : Operation.Apart contents sees otherSees leaves otherLeaves) :
    first.Commute options store second := by
  have swapped : (drawn ++ (second.fresh?.toList ++ first.fresh?.toList)).Nodup :=
    (List.Perm.nodup_iff (List.perm_append_comm.append_left drawn)).1 fresh
  rw [← List.append_assoc] at fresh swapped
  have unused := unused_of_nodup fresh
  have otherUnused := unused_of_nodup swapped
  have drew (drawn : List String) {operation : Operation}
    (distinct : (drawn ++ operation.fresh?.toList).Nodup) :
      ∀ id, operation.fresh? = some id → id ∉ drawn := by
    rw [← List.append_nil (drawn ++ _)] at distinct
    exact unused_of_nodup distinct
  obtain ⟨one, after⟩ :=
    reached.follow options short unused (acts contents reached.sound apart.here)
  obtain ⟨two, otherAfter⟩ :=
    reached.follow options otherShort otherUnused (otherActs contents reached.sound apart.there)
  obtain ⟨later, last⟩ :=
    after.follow options otherShort (drew _ fresh) (otherActs _ after.sound apart.otherKept)
  obtain ⟨otherLater, otherLast⟩ :=
    otherAfter.follow options short (drew _ swapped) (acts _ otherAfter.sound apart.kept)
  have same := last.holds.unique (apart.swap ▸ otherLast.holds)
  exact ⟨otherLater.trans one.symm, later.trans two.symm, congrArg Store.regions same,
    congrArg Store.entries same⟩

variable (reached : Reached store contents drawn) (short : first.Short) (otherShort : second.Short)
  (fresh : (drawn ++ (first.fresh?.toList ++ second.fresh?.toList)).Nodup)
include reached short otherShort fresh

private theorem Reached.commute_catalogs (apart : first.catalog ≠ second.catalog) :
    first.Commute options store second := by
  obtain ⟨result, left, acts⟩ := (first.atCatalog options).acts (contents.find? first.catalog)
  obtain ⟨otherResult, otherLeft, otherActs⟩ :=
    (second.atCatalog options).acts (contents.find? second.catalog)
  apply reached.commute short otherShort fresh acts otherActs
  constructor
  · rfl
  · rfl
  · exact Contents.find?_writeCatalog apart otherLeft
  · exact Contents.find?_writeCatalog (Ne.symm apart) left
  · exact Contents.writeCatalog_comm apart left otherLeft

variable {catalog : String} {db otherDb : Ident} {id other : String}

private theorem Reached.commute_databases (named : first.database? = some (catalog, db))
    (otherNamed : second.database? = some (catalog, otherDb))
    (live : LiveDatabase store catalog db id) (otherLive : LiveDatabase store catalog otherDb other)
    (apart : id ≠ other) : first.Commute options store second := by
  have catalogShort := short.of_database named
  obtain ⟨node, stood, calls⟩ :=
    (reached.holds.liveDatabase_iff_calls reached.sound catalogShort).1 live
  obtain ⟨otherNode, otherStood, otherCalls⟩ :=
    (reached.holds.liveDatabase_iff_calls reached.sound catalogShort).1 otherLive
  obtain ⟨result, left, acts⟩ := (Operation.atDatabase options named).acts calls
  obtain ⟨otherResult, otherLeft, otherActs⟩ :=
    (Operation.atDatabase options otherNamed).acts otherCalls
  apply reached.commute short otherShort fresh acts otherActs
  constructor
  · exact stood
  · exact otherStood
  · exact (Contents.database?_writeDatabase apart otherLeft).trans stood
  · exact (Contents.database?_writeDatabase (Ne.symm apart) left).trans otherStood
  · exact Contents.writeDatabase_comm apart left otherLeft

private theorem Reached.commute_tables {table otherTable : Ident}
    {owner : String} (named : first.table? = some (catalog, db, table))
    (otherNamed : second.table? = some (catalog, otherDb, otherTable))
    (live : LiveTable store catalog db table owner id)
    (otherLive : LiveTable store catalog otherDb otherTable owner other) (apart : id ≠ other) :
    first.Commute options store second := by
  have catalogShort := short.of_database (Operation.database?_of_table named)
  obtain ⟨⟨inside, around, owned⟩, node, stood, calls⟩ :=
    (reached.holds.liveTable_iff_calls reached.sound catalogShort).1 live
  obtain ⟨⟨otherInside, otherAround, otherOwned⟩, otherNode, otherStood, otherCalls⟩ :=
    (reached.holds.liveTable_iff_calls reached.sound catalogShort).1 otherLive
  obtain rfl := Option.some.inj (around.symm.trans otherAround)
  obtain ⟨result, left, acts⟩ := (Operation.atTable options named).acts owned calls
  obtain ⟨otherResult, otherLeft, otherActs⟩ :=
    (Operation.atTable options otherNamed).acts otherOwned otherCalls
  have here : contents.SeesTable catalog owner inside.record.ident id node :=
    ⟨⟨inside, around, rfl⟩, stood⟩
  have there : contents.SeesTable catalog owner inside.record.ident other otherNode :=
    ⟨⟨inside, around, rfl⟩, otherStood⟩
  apply reached.commute short otherShort fresh acts otherActs
  constructor
  · exact here
  · exact there
  · exact Operation.sees_writeTable here apart otherLeft
  · exact Operation.sees_writeTable there (Ne.symm apart) left
  · exact Contents.writeTable_comm apart left otherLeft

end Runs

theorem independent_commute (options : StoreOptions) (operations : List Operation)
    (first second : Operation) (admissible : Admissible (operations ++ [first, second]))
    (independent : first.Independent (Operation.runAll options ∅ operations) second) :
    first.Commute options (Operation.runAll options ∅ operations) second := by
  obtain ⟨begun, short, -⟩ := admissible.before
  have otherShort := admissible.short second (by simp)
  have fresh : (operations.filterMap Operation.fresh? ++
    (first.fresh?.toList ++ second.fresh?.toList)).Nodup := by
    have drawn := admissible.fresh
    rw [List.filterMap_append, ← List.nil_append ([first, second].filterMap _),
      drawn_cons, drawn_cons] at drawn
    simpa using drawn
  have reached := begun.reached options
  cases independent with
  | catalogs apart => exact reached.commute_catalogs short otherShort fresh apart
  | databases named otherNamed live otherLive apart =>
    exact reached.commute_databases short otherShort fresh named otherNamed live otherLive apart
  | tables named otherNamed live otherLive apart =>
    exact reached.commute_tables short otherShort fresh named otherNamed live otherLive apart

/-- Two tables of a database, one of them with a partition,
and a database of the same name in another catalog. -/
def sideBySide : List Operation :=
  let sales : Ident := { name := "sales" }
  [.createDatabase "main" { ident := some sales } "1",
    .createTable "main" sales { ident := some { name := "orders" } } "2",
    .createTable "main" sales { ident := some { name := "bills" } } "3",
    .addPartition "main" sales { name := "bills" } { values := ["2024"] } "4",
    .createDatabase "main" { ident := some { name := "archive" } } "5",
    .createDatabase "other" { ident := some sales } "6"]

theorem independent_commute_side_by_side :
    let store := Operation.runAll {} ∅ sideBySide
    let add : Operation :=
      .addPartition "main" { name := "sales" } { name := "orders" } { values := ["2024"] } "7"
    let dropBills : Operation := .dropTable "main" { id := "1" } { id := "3" }
    let dropArchive : Operation := .dropDatabase "main" { name := "archive" }
    let create : Operation := .createDatabase "other" { ident := some { name := "archive" } } "8"
    add.Commute {} store dropBills ∧ add.Commute {} store dropArchive ∧
      create.Commute {} store dropArchive ∧
      (dropBills.run {} store).1 = .ok .done ∧ (dropArchive.run {} store).1 = .ok .done := by
  intro store add dropBills dropArchive create
  have orders : LiveTable store "main" { name := "sales" } { name := "orders" } "1" "2" := by
    decide +kernel
  have bills : LiveTable store "main" { id := "1" } { id := "3" } "1" "3" := by decide +kernel
  have sales : LiveDatabase store "main" { name := "sales" } "1" := by decide +kernel
  have archive : LiveDatabase store "main" { name := "archive" } "5" := by decide +kernel
  refine ⟨?_, ?_, ?_, by decide +kernel, by decide +kernel⟩
  · exact independent_commute {} sideBySide _ _ (by decide +kernel)
      (.tables rfl rfl orders bills (by decide))
  · exact independent_commute {} sideBySide _ _ (by decide +kernel)
      (.databases rfl rfl sales archive (by decide))
  · exact independent_commute {} sideBySide _ _ (by decide +kernel) (.catalogs (by decide))

/-- Databases of one catalog are numbered in the order in which they are made. -/
example : ¬ (Operation.createDatabase "main" { ident := some { name := "sales" } } "1").Commute {} ∅
    (.createDatabase "main" { ident := some { name := "archive" } } "2") :=
  fun commute => absurd commute.answers (by decide +kernel)

end TableCatalog
