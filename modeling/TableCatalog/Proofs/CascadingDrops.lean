import TableCatalog.Proofs.LastingRecords

/-! Drops take a whole subtree and nothing else. A drop removes the two entries of an entity in its
level and all that lies in its region, down to any depth; no request finds the entity after that,
and one that is made again under its name is empty. -/

namespace TableCatalog

open Region

/-- Of the rows of one store, the other lacks those of an entity and has all others. -/
structure Level.Without (level : Level) (store after : Store) (name id : String) : Prop where
  regions : ∀ key count, after.regions.find? key = some count ↔
    store.regions.find? key = some count ∧ ¬ ∃ path : Path, path.Short ∧
    path.Within (level.child id) ∧ key = path.encode
  entries : ∀ key value, after.entries.find? key = some value ↔
    store.entries.find? key = some value ∧ key ≠ level.byName.entryKey (Bytes.ofText name) ∧
    key ≠ level.byId.entryKey (Bytes.ofText id) ∧
    ¬ ∃ (path : Path) (entry : Bytes), path.Short ∧ path.Within (level.child id) ∧
    key = path.entryKey entry

/-- The store that a drop leaves. -/
def Level.drop (level : Level) (store : Store) (name id : String) : Store :=
  ((store.delete level.byName (Bytes.ofText name)).delete level.byId (Bytes.ofText id)).deleteRegion
    (level.child id)

/-- Both indices of a level have the entity, under its name and under its identifier. -/
structure Level.Lists {α : Type} [Wire.Message α] (level : Level)
    (store : Store) (ident : α → Option Ident) (name id : String) : Prop where
  byName : store.get? level.byName (Bytes.ofText name) = some (Bytes.ofText id)
  byId : ∃ bytes record, store.get? level.byId (Bytes.ofText id) = some bytes ∧
    Wire.read? bytes = some record ∧ ident record = some ⟨name, id⟩

namespace Operation

/-- The database that a request is about, or that it looks in. -/
def database? : Operation → Option (String × Ident)
  | getDatabase catalog db | alterDatabase catalog db _ | dropDatabase catalog db
  | createTable catalog db _ _ | listTables catalog db _
  | getTable catalog db _ | dropTable catalog db _ | addPartition catalog db _ _ _
  | getPartition catalog db _ _ _ | listPartitions catalog db _ _
  | dropPartition catalog db _ _ | dropPartitions catalog db _ _ => some (catalog, db)
  | createDatabase .. | listDatabases .. => none

/-- The table that a request is about, or that it looks in. -/
def table? : Operation → Option (String × Ident × Ident)
  | getTable catalog db table | dropTable catalog db table | addPartition catalog db table _ _
  | getPartition catalog db table _ _
  | listPartitions catalog db table _ | dropPartition catalog db table _
  | dropPartitions catalog db table _ => some (catalog, db, table)
  | _ => none

/-- A drop of no partitions, which looks for nothing. -/
def Idle (operation : Operation) : Prop := ∃ asked ∈ operation.tuples?, asked.2.2.2 = []

instance (operation : Operation) : Decidable operation.Idle :=
  inferInstanceAs (Decidable (∃ asked ∈ operation.tuples?, _ = _))

end Operation

/-- A drop has taken the database with this name and identifier, and nothing else. Malformed
requests are refused before anything is looked up, and a drop of no partitions looks for nothing;
all others that mean the database miss it. -/
structure DatabaseGone (options : StoreOptions) (before : List Operation)
    (drop : Operation) (catalog name id : String) : Prop where
  listed : (Level.catalog catalog).Lists (Operation.runAll options ∅ before) Database.ident name id
  rows : (Level.catalog catalog).Without (Operation.runAll options ∅ before)
    (Operation.runAll options ∅ (before ++ [drop])) name id
  missed : ∀ (operation : Operation) (db : Ident), Admissible (before ++ [drop, operation]) →
    operation.database? = some (catalog, db) →
    db.Calls name id → ¬ operation.Malformed → ¬ operation.Idle →
    Fails (operation.run options (Operation.runAll options ∅ (before ++ [drop]))).1 .notFound
  remade : ∀ record fresh, let again := Operation.createDatabase catalog record fresh
    Admissible (before ++ [drop, again]) → nameOf record.ident = name → ¬ again.Malformed →
    (∃ outcome, (again.run options (Operation.runAll options ∅ (before ++ [drop]))).1 =
      .ok outcome) ∧
    ∀ (db : Ident) shown, db.Short → db.Calls name fresh →
      (Operation.run options (Operation.runAll options ∅ (before ++ [drop, again]))
        (.listTables catalog db shown)).1 = .ok (.tables [])

/-- A drop has taken the table with this name and identifier
out of its database, and nothing else. -/
structure TableGone (options : StoreOptions) (before : List Operation)
    (drop : Operation) (catalog owner name id : String) : Prop where
  listed : (Level.database catalog owner).Lists
    (Operation.runAll options ∅ before) Table.ident name id
  rows : (Level.database catalog owner).Without (Operation.runAll options ∅ before)
    (Operation.runAll options ∅ (before ++ [drop])) name id
  missed : ∀ (operation : Operation) (db table : Ident), Admissible (before ++ [drop, operation]) →
    operation.table? = some (catalog, db, table) →
    LiveDatabase (Operation.runAll options ∅ before) catalog db owner →
    table.Calls name id → ¬ operation.Malformed → ¬ operation.Idle →
    Fails (operation.run options (Operation.runAll options ∅ (before ++ [drop]))).1 .notFound
  remade : ∀ db record fresh, let again := Operation.createTable catalog db record fresh
    Admissible (before ++ [drop, again]) →
    LiveDatabase (Operation.runAll options ∅ before) catalog db owner →
    nameOf record.ident = name → ¬ again.Malformed →
    (∃ outcome, (again.run options (Operation.runAll options ∅ (before ++ [drop]))).1 =
      .ok outcome) ∧
    ∀ (table : Ident) listing, table.Short → table.Calls name fresh →
      ¬ (Operation.listPartitions catalog db table listing).Malformed →
      (Operation.run options (Operation.runAll options ∅ (before ++ [drop, again]))
        (.listPartitions catalog db table listing)).1 = .ok (.partitions [])

/-- What drops that succeed do, whatever was done before. -/
structure Cascades (options : StoreOptions) (before : List Operation)
    (drop : Operation) : Prop where
  database : ∀ catalog db outcome, drop = .dropDatabase catalog db →
    (drop.run options (Operation.runAll options ∅ before)).1 = .ok outcome →
    ∃ name id, LiveDatabase (Operation.runAll options ∅ before) catalog db id ∧
    DatabaseGone options before drop catalog name id
  table : ∀ catalog db table outcome, drop = .dropTable catalog db table →
    (drop.run options (Operation.runAll options ∅ before)).1 = .ok outcome →
    ∃ owner name id, LiveTable (Operation.runAll options ∅ before) catalog db table owner id ∧
    TableGone options before drop catalog owner name id

section Rows

variable {store : Store} {level : Level} {name id : String} {top : Path}

private theorem Region.Path.start_region_iff (keyed : store.Keyed) (short : top.Short)
    {key : Bytes} {count : UInt64} (row : store.regions.find? key = some count) :
    top.encode <+: key ↔ ∃ path : Path, path.Short ∧ path.Within top ∧ key = path.encode := by
  constructor
  · intro inside
    obtain ⟨path, pathShort, rfl⟩ := keyed.regions key count row
    exact ⟨path, pathShort, (Path.encode_start_encode_iff short pathShort).1 inside, rfl⟩
  · rintro ⟨path, pathShort, within, rfl⟩
    exact (Path.encode_start_encode_iff short pathShort).2 within

private theorem Region.Path.start_entry_iff (keyed : store.Keyed)
    (short : top.Short) {key value : Bytes} (row : store.entries.find? key = some value) :
    top.encode <+: key ↔
    ∃ (path : Path) (entry : Bytes), path.Short ∧ path.Within top ∧ key = path.entryKey entry := by
  constructor
  · intro inside
    obtain ⟨path, entry, pathShort, rfl⟩ := keyed.entries key value row
    exact ⟨path, entry, pathShort,
      (Path.encode_start_entryKey_iff short pathShort entry).1 inside, rfl⟩
  · rintro ⟨path, entry, pathShort, within, rfl⟩
    exact (Path.encode_start_entryKey_iff short pathShort entry).2 within

/-- Rows go by the bytes that their keys start with, and those are the bytes of the entity's region
for nothing but what lies in it. -/
theorem Level.without_drop (keyed : store.Keyed) (short : (level.child id).Short) :
    level.Without store (level.drop store name id) name id where
  regions key count := by
    have kept : (level.drop store name id).regions.find? key =
        if Bytes.inPrefixRange (level.child id).encode key then none else store.regions.find? key :=
      SortedMap.find?_removeWhere _ _ _
    rw [kept]
    constructor
    · intro row
      split at row
      · cases row
      next apart =>
        rw [Bytes.inPrefixRange_iff, Path.start_region_iff keyed short row] at apart
        exact ⟨row, apart⟩
    · rintro ⟨row, apart⟩
      rw [← Path.start_region_iff keyed short row, ← Bytes.inPrefixRange_iff] at apart
      rw [if_neg apart, row]
  entries key value := by
    have kept : (level.drop store name id).entries.find? key =
        if Bytes.inPrefixRange (level.child id).encode key then none
        else if key = level.byId.entryKey (Bytes.ofText id) then none
        else if key = level.byName.entryKey (Bytes.ofText name) then none
        else store.entries.find? key := by
      simp only [Level.drop, Store.deleteRegion, Store.delete,
        SortedMap.find?_removeWhere, SortedMap.find?_erase]
    rw [kept]
    constructor
    · intro row
      split at row
      · cases row
      next apart =>
        split at row
        · cases row
        next notId =>
          split at row
          · cases row
          next notName =>
            rw [Bytes.inPrefixRange_iff, Path.start_entry_iff keyed short row] at apart
            exact ⟨row, notName, notId, apart⟩
    · rintro ⟨row, notName, notId, apart⟩
      rw [← Path.start_entry_iff keyed short row, ← Bytes.inPrefixRange_iff] at apart
      rw [if_neg apart, if_neg notId, if_neg notName, row]

end Rows

namespace Operation

variable {store : Store} {operation : Operation} {catalog : String} {db table : Ident}

theorem missing_of_table (asked : operation.table? = some (catalog, db, table))
    (lost : ∀ owner id, ¬ LiveTable store catalog db table owner id) (active : ¬ operation.Idle) :
    operation.Missing store := by
  cases operation with
  | getTable | dropTable | addPartition | listPartitions =>
    cases asked
    exact fun ⟨owner, id, live⟩ => lost owner id live
  | getPartition | dropPartition =>
    cases asked
    exact fun ⟨owner, id, live, _⟩ => lost owner id live
  | dropPartitions _ _ _ tuples =>
    cases asked
    cases tuples with
    | nil => exact absurd ⟨_, rfl, rfl⟩ active
    | cons values rest =>
      exact ⟨values, List.mem_cons_self, fun ⟨owner, id, live, _⟩ => lost owner id live⟩
  | _ => cases asked

theorem missing_of_database (asked : operation.database? = some (catalog, db))
    (lost : ∀ id, ¬ LiveDatabase store catalog db id) (active : ¬ operation.Idle) :
    operation.Missing store := by
  cases operation with
  | createDatabase | listDatabases => cases asked
  | getDatabase | alterDatabase | dropDatabase | createTable | listTables =>
    cases asked
    exact fun ⟨id, live⟩ => lost id live
  | _ =>
    cases asked
    exact missing_of_table rfl (fun owner _ live => lost owner live.1) active

end Operation

section Levels

variable {ε ρ : Type} [Wire.Message ρ] [Node ε ρ] {store : Store}
  {level : Level} {index : Index ε} {valid : ε → Prop} {sought : Ident} {id : String} {node : ε}

/-- An identity that meant an entity means none of those that are left. -/
theorem Index.Sound.not_called (sound : index.Sound valid) (held : index.node? id = some node)
    (calls : sought.Calls (nameOf (Node.ident node)) id) {name other : String}
    {kept : ε} (left : (index.remove name id).node? other = some kept) :
    ¬ sought.Calls (nameOf (Node.ident kept)) other := by
  intro called
  rw [Index.node?_remove] at left
  split at left
  · cases left
  next apart =>
    have first : index.resolve .database sought = .ok id := (sound.resolve_iff held).2 calls
    have second : index.resolve .database sought = .ok other := (sound.resolve_iff left).2 called
    exact apart (Except.ok.inj (second.symm.trans first))

theorem Index.Sound.lists (sound : index.Sound valid)
    (shows : Shows store level.root (index.layout level.inside))
    (short : level.Short) (readable : ∀ node, valid node → Wire.Readable (Node.record node))
    {ident : ρ → Option Ident} (same : ∀ node : ε, Node.ident node = ident (Node.record node))
    (held : index.node? id = some node) :
    level.Lists store ident (nameOf (Node.ident node)) id := by
  obtain ⟨-, name, named, listed⟩ := sound.name_of_node held
  have entry : store.get? level.byName (Bytes.ofText name) = some (Bytes.ofText id) := by
    rw [shows.byName short]
    exact congrArg (Option.map Bytes.ofText) listed
  rw [named]
  exact ⟨entry, ((sound.intact shows short readable same).agree name id).1 entry⟩

end Levels

section Contents

variable {store : Store} {contents after : Contents} {catalog : String} {db table : Ident}

namespace Holds

/-- A database that is there is read from its catalog. -/
theorem reads_found (holds : Holds store contents) (sound : contents.Sound)
    (short : Bytes.Short catalog) {found : Contents.FoundDatabase}
    (here : contents.database catalog db = .ok found) :
    TableCatalog.openCatalog store catalog = .ok (Level.catalog catalog) ∧
    readEntity store (Level.catalog catalog) .database db = .ok (found.id, found.node.record) := by
  obtain ⟨there, resolved, held⟩ := Contents.database_eq_ok.1 here
  constructor
  · rw [holds.openCatalog short, Contents.catalog_eq_ok.2 there]
    rfl
  · rw [holds.readDatabase sound short there, Index.find_eq_ok.2 ⟨resolved, held⟩]
    rfl

theorem dropDatabase_eq (holds : Holds store contents) (sound : contents.Sound)
    (short : Bytes.Short catalog) (some : catalog ≠ "") (formed : ¬ db.Blank)
    {found : Contents.FoundDatabase} (here : contents.database catalog db = .ok found) :
    TableCatalog.dropDatabase catalog db store =
      .ok ((), (Level.catalog catalog).drop store (nameOf found.node.record.ident) found.id) := by
  have named : Request.requireCatalog catalog = .ok () := Request.requireCatalog_eq_ok.2 some
  have given : Request.requireIdent .database db = .ok () := Request.requireIdent_eq_ok.2 formed
  obtain ⟨opened, read⟩ := holds.reads_found sound short here
  simp only [TableCatalog.dropDatabase, named, given, Update.read,
    bind, StateT.bind, Except.bind, get, getThe, MonadStateOf.get, StateT.get, liftM, monadLift,
    MonadLift.monadLift, StateT.lift, pure, Except.pure, opened, read]
  rfl

theorem dropTable_eq (holds : Holds store contents) (sound : contents.Sound)
    (short : Bytes.Short catalog) (dbShort : db.Short) (some : catalog ≠ "")
    (formed : ¬ db.Blank) (within : ¬ table.Blank) {missing : Fault}
    {found : Contents.FoundTable} (here : contents.table catalog db table missing = .ok found) :
    TableCatalog.dropTable catalog db table store =
      .ok ((), (Level.database catalog found.db.id).drop store
        (nameOf found.node.record.ident) found.id) := by
  obtain ⟨placed, resolved, held⟩ := Contents.table_eq_ok.1 here
  have named : Request.requireTable catalog db table = .ok () :=
    Request.requireTable_eq_ok.2 ⟨some, formed, within⟩
  have opened : TableCatalog.openDatabase store catalog db =
      .ok (Level.database catalog found.db.id) := by
    rw [holds.openDatabase sound short dbShort, placed]
    rfl
  have read : readEntity store (Level.database catalog found.db.id) .table table =
      .ok (found.id, found.node.record) := by
    rw [holds.readTable sound short placed, Index.find_eq_ok.2 ⟨resolved, held⟩]
    rfl
  simp only [TableCatalog.dropTable, named, Update.read, bind,
    StateT.bind, Except.bind, get, getThe, MonadStateOf.get, StateT.get, liftM, monadLift,
    MonadLift.monadLift, StateT.lift, pure, Except.pure, opened, read]
  rfl

end Holds

namespace Contents

variable {options : StoreOptions}

theorem Sound.database_unique (sound : contents.Sound) {id other : String}
    {node kept : DatabaseNode} (held : contents.database? catalog id = some node)
    (calls : db.Calls (nameOf node.record.ident) id)
    (also : contents.database? catalog other = some kept)
    (called : db.Calls (nameOf kept.record.ident) other) : other = id := by
  obtain ⟨first, here, rfl, -⟩ := sound.database_iff.2 ⟨held, calls⟩
  obtain ⟨second, there, rfl, -⟩ := sound.database_iff.2 ⟨also, called⟩
  rw [Except.ok.inj (there.symm.trans here)]

end Contents

theorem Admissible.afterwards {before : List Operation} {drop operation : Operation}
    (admissible : Admissible (before ++ [drop, operation])) :
    operation.Short ∧ ∀ id, operation.fresh? = some id →
    id ∉ before.filterMap Operation.fresh? ++ drop.fresh?.toList := by
  have whole : Admissible ((before ++ [drop]) ++ operation :: []) := by simpa using admissible
  obtain ⟨-, short, fresh⟩ := whole.before
  have drawn : (before ++ [drop]).filterMap Operation.fresh? =
      before.filterMap Operation.fresh? ++ drop.fresh?.toList := by
    rw [List.filterMap_append, List.filterMap_cons]
    cases drop.fresh? <;> rfl
  exact ⟨short, drawn ▸ fresh⟩

section Database

variable {options : StoreOptions} {drawn : List String} {found : Contents.FoundDatabase}
  (sound : contents.Sound) (short : Bytes.Short catalog)
  (here : contents.database catalog db = .ok found) (next : Reached store (contents.insert catalog
    (found.index.remove (nameOf found.node.record.ident) found.id)) drawn)
include sound short here next

private theorem Reached.lost_database {sought : Ident}
    (calls : sought.Calls (nameOf found.node.record.ident) found.id) (id : String) :
    ¬ LiveDatabase store catalog sought id := by
  obtain ⟨-, index, held, -⟩ := sound.database here
  rw [next.holds.liveDatabase_iff_calls next.sound short]
  rintro ⟨node, left, called⟩
  rw [Contents.database?_insert, if_pos rfl] at left
  exact index.not_called held calls left called

end Database

theorem Contents.picked_empty (keys : List String) : Contents.picked ∅ keys = [] := by
  unfold Contents.picked
  split
  · rfl
  · exact List.filterMap_eq_nil_iff.2 fun _ _ => rfl

section Made

variable {options : StoreOptions} {drawn : List String} {fresh : String}
  (reached : Reached store contents drawn) (unused : fresh ∉ drawn)
include reached unused

/-- A database whose name is free is made, and holds no tables. -/
private theorem Reached.makes_database {record : Database}
    (short : (Operation.createDatabase catalog record fresh).Short)
    (formed : ¬ (Operation.createDatabase catalog record fresh).Malformed)
    (free : ((contents.find? catalog).getD {}).id? (nameOf record.ident) = none) :
    (∃ outcome, (Operation.run options store (.createDatabase catalog record fresh)).1 =
      .ok outcome) ∧
    ∀ db shown, db.Short → db.Calls (nameOf record.ident) fresh →
      (Operation.run options (Operation.run options store (.createDatabase catalog record fresh)).2
        (.listTables catalog db shown)).1 = .ok (.tables []) := by
  have undrawn : ∀ id, (Operation.createDatabase catalog record fresh).fresh? = some id →
    id ∉ drawn := fun id equal => Option.some.inj equal ▸ unused
  obtain ⟨some, named⟩ := not_or.1 formed
  obtain ⟨made, done⟩ : ∃ made, contents.createDatabase catalog record fresh =
      .ok (made, contents.insert catalog
        (((contents.find? catalog).getD {}).add (nameOf record.ident) fresh { record := made })) :=
    ⟨_, Contents.createDatabase_eq_ok.2 ⟨some, named, free, rfl, rfl⟩⟩
  have identified : nameOf made.ident = nameOf record.ident := by
    obtain ⟨-, -, -, rfl, -⟩ := Contents.createDatabase_eq_ok.1 done
    rfl
  obtain ⟨answered, later⟩ :=
    reached.follow options short undrawn (Contents.change_eq_ok.2 ⟨made, done, rfl⟩)
  refine ⟨⟨_, answered⟩, fun db shown dbShort calls => ?_⟩
  obtain ⟨found, here, -, empty⟩ :=
    later.sound.database_iff.2 ⟨Contents.database?_created, identified ▸ calls⟩
  rw [later.answer_quiet (.listTables catalog db shown) ⟨short.1, dbShort⟩ rfl]
  refine congrArg (Except.map Outcome.tables)
    (Contents.findTables_eq_ok.2 ⟨some, calls.not_blank named, found, here, ?_⟩)
  rw [empty]
  rfl

/-- A table whose name is free is made, and holds no partitions. -/
private theorem Reached.makes_table {record : Table}
    (short : (Operation.createTable catalog db record fresh).Short)
    (formed : ¬ (Operation.createTable catalog db record fresh).Malformed)
    {found : Contents.FoundDatabase} (here : contents.database catalog db = .ok found)
    (free : found.node.tables.id? (nameOf record.ident) = none) :
    (∃ outcome, (Operation.run options store (.createTable catalog db record fresh)).1 =
      .ok outcome) ∧
    ∀ table listing, table.Short → table.Calls (nameOf record.ident) fresh →
      ¬ (Operation.listPartitions catalog db table listing).Malformed →
      (Operation.run options (Operation.run options store (.createTable catalog db record fresh)).2
        (.listPartitions catalog db table listing)).1 =
        .ok (.partitions []) := by
  have undrawn : ∀ id, (Operation.createTable catalog db record fresh).fresh? = some id →
    id ∉ drawn := fun id equal => Option.some.inj equal ▸ unused
  obtain ⟨some, owned, named⟩ : catalog ≠ "" ∧ ¬ db.Blank ∧ nameOf record.ident ≠ "" := by
    simpa only [Operation.Malformed, not_or] using formed
  obtain ⟨made, done⟩ : ∃ made, contents.createTable catalog db record fresh =
      .ok (made, contents.setTables catalog found
        (found.node.tables.add (nameOf record.ident) fresh { record := made })) :=
    ⟨_, Contents.createTable_eq_ok.2 ⟨⟨some, owned⟩, named, found, here, free, rfl, rfl⟩⟩
  have identified : nameOf made.ident = nameOf record.ident := by
    obtain ⟨-, -, -, -, -, rfl, -⟩ := Contents.createTable_eq_ok.1 done
    rfl
  obtain ⟨answered, later⟩ :=
    reached.follow options short undrawn (Contents.change_eq_ok.2 ⟨made, done, rfl⟩)
  refine ⟨⟨_, answered⟩, fun table listing tableShort calls wellFormed => ?_⟩
  obtain ⟨⟨-, -, within⟩, keyed⟩ : (catalog ≠ "" ∧ ¬ db.Blank ∧ ¬ table.Blank) ∧
    ¬ ∃ values ∈ listing.filter, Request.joinValues values = "" := by
    simpa only [Operation.Malformed, not_or] using wellFormed
  obtain ⟨keys, joined⟩ : ∃ keys, Request.partitionKeys listing.filter = .ok keys := by
    cases joined : Request.partitionKeys listing.filter with
    | error fault => exact absurd (Request.partitionKeys_error joined).2 keyed
    | ok keys => exact ⟨keys, rfl⟩
  obtain ⟨-, parent⟩ := reached.sound.database_iff.1 ⟨found, here, rfl, rfl⟩
  obtain ⟨inside, (there : Contents.scope _ catalog db table = .ok inside), -, -, empty⟩ :=
    (later.sound.table_iff _).2 ⟨⟨(Contents.database?_setDatabase here _).trans (if_pos ⟨rfl, rfl⟩),
      parent⟩, Contents.table?_created here, identified ▸ calls⟩
  rw [later.answer_quiet (.listPartitions catalog db table listing)
      ⟨short.1, short.2.1, tableShort⟩ rfl]
  refine congrArg (Except.map Outcome.partitions)
    (Contents.findPartitions_eq_ok.2 ⟨⟨some, owned, within⟩, keys, joined, inside, there, ?_⟩)
  rw [empty]
  show attachToFirst _ ((Contents.picked ∅ keys).map _) = []
  rw [Contents.picked_empty]
  rfl

end Made

section Table

variable {drawn : List String} {found : Contents.FoundTable}
  {missing : Fault} (sound : contents.Sound) (short : Bytes.Short catalog)
  (here : contents.table catalog db table missing = .ok found)
  (next : Reached store (contents.setTables catalog found.db
    (found.db.node.tables.remove (nameOf found.node.record.ident) found.id)) drawn)
include sound short here next

private theorem Reached.lost_table {parent sought : Ident}
    (owned : parent.Calls (nameOf found.db.node.record.ident) found.db.id)
    (calls : sought.Calls (nameOf found.node.record.ident) found.id) (owner id : String) :
    ¬ LiveTable store catalog parent sought owner id := by
  obtain ⟨placed, held, -⟩ := sound.table here
  rw [next.holds.liveTable_iff_calls next.sound short]
  rintro ⟨⟨inside, stood, called⟩, node, left, meant⟩
  obtain rfl := next.sound.database_unique
    ((Contents.database?_setDatabase placed _).trans (if_pos ⟨rfl, rfl⟩)) owned stood called
  rw [Contents.setTables, Contents.table?_setDatabase placed, if_pos ⟨rfl, rfl⟩] at left
  exact (sound.database placed).2.2.2.tables.not_called held calls left meant

end Table

theorem Operation.runAll_append (options : StoreOptions) (store : Store)
    (first second : List Operation) :
    Operation.runAll options store (first ++ second) =
      Operation.runAll options (Operation.runAll options store first) second := List.foldl_append

section Runs

variable {options : StoreOptions} {before : List Operation} {outcome : Outcome}
  (begun : Admissible before) (short : Bytes.Short catalog)
include begun short

theorem Admissible.database_gone (dbShort : db.Short)
    (succeeded : (Operation.run options (Operation.runAll options ∅ before)
      (.dropDatabase catalog db)).1 = .ok outcome) :
    ∃ name id, LiveDatabase (Operation.runAll options ∅ before) catalog db id ∧
    DatabaseGone options before (.dropDatabase catalog db) catalog name id := by
  have reached := begun.reached options
  have dropShort : (Operation.dropDatabase catalog db).Short := ⟨short, dbShort⟩
  obtain ⟨after, ran, next⟩ :=
    reached.retrace dropShort (fun _ impossible => nomatch impossible) succeeded
  obtain ⟨done, dropped, -⟩ := Contents.change_eq_ok.1 ran
  obtain ⟨some, formed, found, here, rfl⟩ := Contents.dropDatabase_eq_ok.1 dropped
  obtain ⟨there, index, held, -⟩ := reached.sound.database here
  have level := Level.catalog_short short
  have left : Operation.runAll options ∅ (before ++ [.dropDatabase catalog db]) =
      (Level.catalog catalog).drop (Operation.runAll options ∅ before)
        (nameOf found.node.record.ident) found.id := by
    rw [Operation.runAll_append]
    exact congrArg Prod.snd
      (Operation.change_ok (reached.holds.dropDatabase_eq reached.sound short some formed here))
  refine ⟨nameOf found.node.record.ident, found.id,
    (reached.holds.liveDatabase_iff reached.sound short).2 ⟨found, here, rfl⟩, ?_, ?_, ?_, ?_⟩
  · exact index.lists (reached.holds.catalog there) level (fun _ valid => valid.record.readable)
      (fun _ => rfl) held
  · exact left ▸ Level.without_drop reached.holds.keyed (level.child (index.name_of_node held).1)
  · intro operation db admissible asked calls formed active
    obtain ⟨operationShort, fresh⟩ := admissible.afterwards
    have missing := Operation.missing_of_database asked
      (next.lost_database reached.sound short here calls) active
    rw [Operation.runAll_append]
    exact (next.judged operationShort fresh options).notFound_iff.2 ⟨formed, missing⟩
  · intro record fresh again admissible same formed
    obtain ⟨againShort, unused⟩ := admissible.afterwards
    rw [Operation.runAll_append, Operation.runAll_append, ← same]
    refine next.makes_database (unused _ rfl) againShort formed ?_
    rw [SortedMap.find?_insert, if_pos rfl, same]
    exact (SortedMap.find?_erase _ _ _).trans (if_pos rfl)

theorem Admissible.table_gone (dbShort : db.Short) (tableShort : table.Short)
    (succeeded : (Operation.run options (Operation.runAll options ∅ before)
      (.dropTable catalog db table)).1 = .ok outcome) :
    ∃ owner name id, LiveTable (Operation.runAll options ∅ before) catalog db table owner id ∧
      TableGone options before (.dropTable catalog db table) catalog owner name id := by
  have reached := begun.reached options
  have dropShort : (Operation.dropTable catalog db table).Short := ⟨short, dbShort, tableShort⟩
  obtain ⟨after, ran, next⟩ :=
    reached.retrace dropShort (fun _ impossible => nomatch impossible) succeeded
  obtain ⟨done, dropped, -⟩ := Contents.change_eq_ok.1 ran
  obtain ⟨⟨some, formed, within⟩, found, here, rfl⟩ := Contents.dropTable_eq_ok.1 dropped
  obtain ⟨placed, stood, -⟩ := reached.sound.table here
  obtain ⟨there, index, held, node⟩ := reached.sound.database placed
  have level := Level.database_short short (index.name_of_node held).1
  have left : Operation.runAll options ∅ (before ++ [.dropTable catalog db table]) =
      (Level.database catalog found.db.id).drop (Operation.runAll options ∅ before)
        (nameOf found.node.record.ident) found.id := by
    rw [Operation.runAll_append]
    exact congrArg Prod.snd (Operation.change_ok
      (reached.holds.dropTable_eq reached.sound short dbShort some formed within here))
  -- The database that the table is in goes by the same identities before and after the drop.
  have owned {parent : Ident}
    (live : LiveDatabase (Operation.runAll options ∅ before) catalog parent found.db.id) :
      parent.Calls (nameOf found.db.node.record.ident) found.db.id := by
    obtain ⟨inside, same, calls⟩ :=
      (reached.holds.liveDatabase_iff_calls reached.sound short).1 live
    obtain rfl := Option.some.inj (same.symm.trans (Contents.database?_of_database placed))
    exact calls
  refine ⟨found.db.id, nameOf found.node.record.ident, found.id,
    (reached.holds.liveTable_iff reached.sound short _).2 ⟨found, here, rfl, rfl⟩,
    ?_, ?_, ?_, ?_⟩
  · exact node.tables.lists (reached.holds.database there held) level
      (fun _ valid => valid.record.readable) (fun _ => rfl) stood
  · exact left ▸ Level.without_drop reached.holds.keyed
      (level.child (node.tables.name_of_node stood).1)
  · intro operation db table admissible asked live calls formed active
    obtain ⟨operationShort, fresh⟩ := admissible.afterwards
    have missing := Operation.missing_of_table asked
      (next.lost_table reached.sound short here (owned live) calls) active
    rw [Operation.runAll_append]
    exact (next.judged operationShort fresh options).notFound_iff.2 ⟨formed, missing⟩
  · intro db record fresh again admissible live same formed
    obtain ⟨againShort, unused⟩ := admissible.afterwards
    obtain ⟨parent, there, -, left⟩ := next.sound.database_iff.2
      ⟨(Contents.database?_setDatabase placed _).trans (if_pos ⟨rfl, rfl⟩), owned live⟩
    rw [Operation.runAll_append, Operation.runAll_append, ← same]
    refine next.makes_table (unused _ rfl) againShort formed there ?_
    rw [left, same]
    exact (SortedMap.find?_erase _ _ _).trans (if_pos rfl)

end Runs

end Contents

theorem drops_cascade (options : StoreOptions) (before : List Operation)
    (drop : Operation) (admissible : Admissible (before ++ [drop])) :
    Cascades options before drop := by
  obtain ⟨begun, short, -⟩ := admissible.before
  refine ⟨?_, ?_⟩
  · rintro catalog db outcome rfl succeeded
    exact begun.database_gone short.1 short.2 succeeded
  · rintro catalog db table outcome rfl succeeded
    exact begun.table_gone short.1 short.2.1 short.2.2 succeeded

/-- A database with a table and a partition, beside one whose
name it starts with and one of its name in another catalog. -/
def stocked : List Operation :=
  let sales : Ident := { name := "sales" }
  let orders : Ident := { name := "orders" }
  [.createDatabase "main" { ident := some sales } "D1",
    .createTable "main" sales { ident := some orders } "T1",
    .addPartition "main" sales orders { values := ["2024", "01"] } "P1",
    .createDatabase "main" { ident := some { name := "sale" } } "D",
    .createDatabase "other" { ident := some sales } "D2"]

theorem drops_cascade_stocked :
    Cascades {} stocked (.dropDatabase "main" { id := "D1" }) ∧
    (Operation.run {} (Operation.runAll {} ∅ stocked) (.dropDatabase "main" { id := "D1" })).1 =
      .ok .done :=
  ⟨drops_cascade {} stocked _ (by decide +kernel), by decide +kernel⟩

/-- Not every request about a database that is gone misses it. -/
theorem idle_drop_misses_nothing :
    let sales : Ident := { name := "sales" }
    let orders : Ident := { name := "orders" }
    let drop := Operation.dropDatabase "main" sales
    let after := Operation.runAll {} ∅ (stocked ++ [drop])
    (drop.run {} (Operation.runAll {} ∅ stocked)).1 = .ok .done ∧
    (Operation.run {} after (.dropPartitions "main" sales orders [])).1 = .ok (.count 0) ∧
    Fails (Operation.run {} after (.getPartition "main" sales orders [] [])).1 .invalidArgument ∧
    ¬ ∀ (operation : Operation) (db : Ident), Admissible (stocked ++ [drop, operation]) →
      operation.database? = some ("main", db) →
      db.Calls "sales" "D1" → Fails (operation.run {} after).1 .notFound := by
  refine ⟨by decide +kernel, by decide +kernel, by decide +kernel, fun missed => ?_⟩
  have unlikely := missed (.dropPartitions "main" { name := "sales" } { name := "orders" } [])
    { name := "sales" } (by decide +kernel) rfl (by decide)
  revert unlikely
  decide +kernel

end TableCatalog
