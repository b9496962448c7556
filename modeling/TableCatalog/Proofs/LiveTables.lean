import TableCatalog.Proofs.Addressing
import TableCatalog.Proofs.ContentsOrigins
import TableCatalog.Proofs.TablePartitions

/-! Requests get to a table that is live: nothing that they must carry is missing, the table is
found and its record read. Of all its partitions none is beyond reading. -/

namespace TableCatalog

open Region

variable {store after : Store} {contents : Contents} {drawn : List String}
  {log : List Issue} {catalog owner id : String} {db table : Ident}

/-- Requests with these identities get to the table and can read its record. -/
structure Opens (store : Store) (catalog : String) (db table : Ident)
    (found : TableRef) (record : Table) : Prop where
  formed : Request.requireTable catalog db table = .ok ()
  opened : openTable store catalog db table = .ok found
  read : found.read store = .ok record

theorem Opens.altered {found : TableRef} {record : Table}
    (opens : Opens store catalog db table found record) (alters : found.Alters store after) :
    Opens after catalog db table found record where
  formed := opens.formed
  opened := alters.openTable opens.opened
  read := (alters.read opens.opened).trans opens.read

/-- A table that has been found in a database. -/
def tableRef (catalog owner id : String) : TableRef := ⟨Level.database catalog owner, id⟩

theorem Reached.liveTable_scope (reached : Reached store contents drawn)
    (short : Bytes.Short catalog) (live : LiveTable store catalog db table owner id) :
    ∃ found, contents.scope catalog db table = .ok found ∧ found.db.id = owner ∧ found.id = id :=
  (reached.holds.liveTable_iff reached.sound short _).1 live

theorem Founded.formed (founded : Founded contents log) (reached : Reached store contents drawn)
    (short : Bytes.Short catalog) (live : LiveTable store catalog db table owner id) :
    Request.requireTable catalog db table = .ok () := by
  obtain ⟨⟨inside, stood, calls⟩, node, held, called⟩ :=
    (reached.holds.liveTable_iff_calls reached.sound short).1 live
  obtain ⟨index, there, -⟩ := Option.bind_eq_some_iff.1 stood
  exact Request.requireTable_eq_ok.2 ⟨founded.catalogs _ _ there,
    calls.not_blank (founded.databases _ _ _ stood).1,
    called.not_blank (founded.tables _ _ _ _ held).1⟩

theorem Reached.livePartition_iff (reached : Reached store contents drawn)
    (short : Bytes.Short catalog) (tableShort : table.Short)
    (live : LiveTable store catalog db table owner id) (values : List String) :
    LivePartition store catalog db table values ↔
    ((tableRef catalog owner id).partition? store (Request.joinValues values)).isSome = true := by
  obtain ⟨found, here, rfl, rfl⟩ := reached.liveTable_scope short live
  rw [reached.livePartition_found short tableShort here, tableRef,
    reached.holds.partition? reached.sound short tableShort here, Option.isSome_map]

/-- What is stored of a table can be read, and stands under the key of its values. -/
theorem Reached.stored_readable (reached : Reached store contents drawn)
    (short : Bytes.Short catalog) (tableShort : table.Short)
    (live : LiveTable store catalog db table owner id) {key bytes : Bytes}
    (stored : store.get? (tableRef catalog owner id).partitions key = some bytes) :
    store.hasRegion (tableRef catalog owner id).partitions = true ∧
    ∃ record : Partition, Wire.read? bytes = some record ∧
    key = Bytes.ofText (Request.joinValues record.values) := by
  obtain ⟨found, here, rfl, rfl⟩ := reached.liveTable_scope short live
  obtain ⟨shows, region⟩ := reached.holds.found_shelf reached.sound short tableShort here
  rw [tableRef, TableRef.partitions, shows.shelf_row region, Option.map_eq_some_iff] at stored
  obtain ⟨record, row, rfl⟩ := stored
  obtain ⟨address, -, fits⟩ := (reached.sound.table here).2.2.shelf.rows key record row
  refine ⟨?_, record, fits.readable.read?, address⟩
  rw [tableRef, TableRef.partitions, Store.hasRegion_eq, shows.shelf_count region]
  cases opened : found.node.shelf with
  | some shelf => rfl
  | none =>
    rw [opened] at row
    cases row

/-- A live table is read as it is looked up. -/
theorem Admissible.opens {operations : List Operation} (admissible : Admissible operations)
    (options : StoreOptions) (short : Bytes.Short catalog) (dbShort : db.Short)
    (live : LiveTable (Operation.runAll options ∅ operations) catalog db table owner id) :
    ∃ record, getTable (Operation.runAll options ∅ operations) catalog db table = .ok record ∧
      Opens (Operation.runAll options ∅ operations) catalog db table
        (tableRef catalog owner id) record := by
  have reached := admissible.reached options
  have formed := (admissible.founded options).formed reached short live
  obtain ⟨found, here, rfl, rfl⟩ := reached.liveTable_scope short live
  have looked : (Contents.runAll options ∅ operations).getTable catalog db table =
      .ok found.node.record := by
    refine Contents.getTable_eq_ok.2 ⟨Request.requireTable_eq_ok.1 formed, found, ?_, rfl⟩
    exact Contents.table_eq_ok.2 (Contents.table_eq_ok.1 here)
  refine ⟨found.node.record, ?_, formed, ?_, reached.holds.read reached.sound short here⟩
  · rw [reached.holds.getTable reached.sound short dbShort, looked]
  · rw [reached.holds.openTable reached.sound short dbShort, here]
    rfl

/-- A table with three partitions. -/
def threeDays : List Operation :=
  let sales : Ident := { name := "sales" }
  let orders : Ident := { name := "orders" }
  [.createDatabase "main" { ident := some sales } "1",
    .createTable "main" sales { ident := some orders } "2",
    .addPartition "main" sales orders { values := ["1"] } "3",
    .addPartition "main" sales orders { values := ["2"] } "4",
    .addPartition "main" sales orders { values := ["3"] } "5"]

end TableCatalog
