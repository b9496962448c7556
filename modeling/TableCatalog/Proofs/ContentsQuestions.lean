import TableCatalog.Proofs.ContentsLookup

/-! Questions to a store and to its contents have the same answers and the same faults. -/

namespace TableCatalog

open Region

namespace Holds

variable {store : Store} {contents : Contents} {catalog : String} {db table : Ident}

theorem getDatabase (holds : Holds store contents) (sound : contents.Sound)
    (short : Bytes.Short catalog) :
    getDatabase store catalog db = contents.getDatabase catalog db := by
  simp only [TableCatalog.getDatabase, Contents.getDatabase,
    Contents.database, holds.openCatalog short, Contents.catalog]
  cases Request.requireCatalog catalog with
  | error fault => rfl
  | ok =>
    cases Request.requireIdent .database db with
    | error fault => rfl
    | ok =>
      cases found : contents.find? catalog with
      | none => rfl
      | some index =>
        simp only [Except.map, bind, Except.bind, holds.readDatabase sound short found]
        cases index.find .database db (.absent ("database " ++ db.text)) <;> rfl

theorem findDatabases (holds : Holds store contents) (sound : contents.Sound)
    (short : Bytes.Short catalog) (listing : DatabaseListing) :
    findDatabases store catalog listing = contents.findDatabases catalog listing := by
  simp only [TableCatalog.findDatabases, Contents.findDatabases,
    holds.openCatalog short, Contents.catalog]
  cases Request.requireCatalog catalog with
  | error fault => rfl
  | ok =>
    cases found : contents.find? catalog with
    | none => rfl
    | some index =>
      have level := Level.catalog_short short
      have records := recordsIn_eq (fun key => (holds.catalog found).byId level key)
        fun key node held => ((sound.indices _ _ found).nodes key node held).record.readable
      simp only [Except.map, bind, Except.bind, records, List.map_map]
      rfl

theorem getTable (holds : Holds store contents) (sound : contents.Sound)
    (short : Bytes.Short catalog) (dbShort : db.Short) :
    getTable store catalog db table = contents.getTable catalog db table := by
  simp only [TableCatalog.getTable, Contents.getTable, Contents.table,
    holds.openDatabase sound short dbShort]
  cases Request.requireTable catalog db table with
  | error fault => rfl
  | ok =>
    cases here : contents.database catalog db with
    | error fault => rfl
    | ok found =>
      simp only [Except.map, bind, Except.bind, holds.readTable sound short here]
      cases found.node.tables.find .table table (.absent ("table " ++ table.text)) <;> rfl

theorem findTables (holds : Holds store contents) (sound : contents.Sound)
    (short : Bytes.Short catalog) (dbShort : db.Short) (shown : List String) :
    findTables store catalog db shown = contents.findTables catalog db shown := by
  simp only [TableCatalog.findTables, Contents.findTables, holds.openDatabase sound short dbShort]
  cases Request.requireCatalog catalog with
  | error fault => rfl
  | ok =>
    cases Request.requireIdent .database db with
    | error fault => rfl
    | ok =>
      cases here : contents.database catalog db with
      | error fault => rfl
      | ok found =>
        obtain ⟨there, indexSound, stood, node⟩ := sound.database here
        have level := Level.database_short short (indexSound.name_of_node stood).1
        have records := recordsIn_eq (fun key => (holds.database there stood).byId level key)
          fun key table held => (node.tables.nodes key table held).record.readable
        simp only [Except.map, bind, Except.bind, records, List.map_map]
        rfl

theorem getPartition (holds : Holds store contents) (sound : contents.Sound)
    (short : Bytes.Short catalog) (dbShort : db.Short) (tableShort : table.Short)
    (values shown : List String) :
    getPartition store catalog db table values shown =
      contents.getPartition catalog db table values shown := by
  simp only [TableCatalog.getPartition, Contents.getPartition, holds.openTable sound short dbShort]
  cases Request.requireTable catalog db table with
  | error fault => rfl
  | ok =>
    cases Request.partitionKey values with
    | error fault => rfl
    | ok key =>
      cases here : contents.scope catalog db table with
      | error fault => rfl
      | ok found =>
        simp only [Except.map, bind, Except.bind, holds.partition? sound short tableShort here]
        cases row : (found.node.shelf.getD {}).rows.find? (Bytes.ofText key) with
        | none => rfl
        | some record =>
          have readable := ((sound.table here).2.2.shelf.rows _ _ row).2.2.readable
          simp only [Option.map_some, readable.decode, holds.read sound short here]
          cases admits shown [] tablePath <;> rfl

/-- The partitions that a listing goes through: all of a table's, or those of the keys asked for. -/
private theorem listed (holds : Holds store contents) (sound : contents.Sound)
    (short : Bytes.Short catalog) (tableShort : table.Short) {found : Contents.FoundTable}
    (here : contents.scope catalog db table = .ok found) (keys : List String) :
    (if keys.isEmpty then
        if store.hasRegion (TableRef.partitions ⟨Level.database catalog found.db.id, found.id⟩) then
          recordsIn store (TableRef.partitions ⟨Level.database catalog found.db.id, found.id⟩)
        else []
      else keys.filterMap fun key => (TableRef.partition? store
        ⟨Level.database catalog found.db.id, found.id⟩ key).bind Wire.read?) =
    if keys.isEmpty then (found.node.shelf.getD {}).rows.toList.map (·.2)
    else keys.filterMap fun key => (found.node.shelf.getD {}).rows.find? (Bytes.ofText key) := by
  obtain ⟨shows, region⟩ := holds.found_shelf sound short tableShort here
  have rows := (sound.table here).2.2.shelf.rows
  split
  · have records := recordsIn_eq (shows.shelf_row region) fun key record held =>
      (rows key record held).2.2.readable
    simp only [TableRef.partitions, Store.hasRegion_eq, shows.shelf_count region, records]
    cases found.node.shelf <;> rfl
  · refine List.filterMap_congr fun key _ => ?_
    rw [holds.partition? sound short tableShort here]
    cases held : (found.node.shelf.getD {}).rows.find? (Bytes.ofText key) with
    | none => rfl
    | some record => exact (rows _ _ held).2.2.readable.read?

theorem findPartitions (holds : Holds store contents) (sound : contents.Sound)
    (short : Bytes.Short catalog) (dbShort : db.Short) (tableShort : table.Short)
    (listing : PartitionListing) :
    findPartitions store catalog db table listing =
      contents.findPartitions catalog db table listing := by
  simp only [TableCatalog.findPartitions, Contents.findPartitions,
    holds.openTable sound short dbShort]
  cases Request.requireTable catalog db table with
  | error fault => rfl
  | ok =>
    cases Request.partitionKeys listing.filter with
    | error fault => rfl
    | ok keys =>
      cases here : contents.scope catalog db table with
      | error fault => rfl
      | ok found =>
        simp only [Except.map, bind, Except.bind, holds.listed sound short tableShort here,
          holds.read sound short here]
        cases admits listing.shown listing.hidden tablePath <;> rfl

end Holds
end TableCatalog
