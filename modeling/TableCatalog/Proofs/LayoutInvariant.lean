import TableCatalog.Proofs.ContentsRefinement

/-! The layout that every run keeps. The indices of a level agree with
each other and with the regions inside it, partitions stand under the
keys of their values, and the store holds no row besides. -/

namespace TableCatalog

open Region

/-- A level has its regions, and its name index and its records name the same entities. -/
structure Level.Intact {α : Type} [Wire.Message α] (store : Store)
    (level : Level) (ident : α → Option Ident) : Prop where
  regions : ∀ region ∈ level.regions, store.hasRegion region = true
  agree : ∀ name id : String, store.get? level.byName (Bytes.ofText name) = some (Bytes.ofText id) ↔
    ∃ bytes record, store.get? level.byId (Bytes.ofText id) = some bytes ∧
    Wire.read? bytes = some record ∧ ident record = some ⟨name, id⟩
  names : ∀ key value, store.get? level.byName key = some value →
    ∃ name id, key = Bytes.ofText name ∧ value = Bytes.ofText id
  records : ∀ key bytes, store.get? level.byId key = some bytes →
    ∃ name id record, key = Bytes.ofText id ∧ Wire.read? bytes = some record ∧
    ident record = some ⟨name, id⟩

/-- The catalog was created, and its index of records has the database. -/
def HasDatabase (store : Store) (catalog db : String) : Prop :=
  store.hasRegion (Level.catalog catalog).root = true ∧
  (store.get? (Level.catalog catalog).byId (Bytes.ofText db)).isSome = true

def HasTable (store : Store) (catalog db table : String) : Prop :=
  HasDatabase store catalog db ∧
  (store.get? (Level.database catalog db).byId (Bytes.ofText table)).isSome = true

instance (store : Store) (catalog db : String) : Decidable (HasDatabase store catalog db) :=
  inferInstanceAs (Decidable (_ ∧ _))

instance (store : Store) (catalog db table : String) :
    Decidable (HasTable store catalog db table) := inferInstanceAs (Decidable (_ ∧ _))

/-- The regions that catalogs are made of. -/
inductive RegionPlace (store : Store) : Path → Prop
  | catalog {catalog : String} {region : Path}
      (created : store.hasRegion (Level.catalog catalog).root = true)
      (within : region ∈ (Level.catalog catalog).regions) : RegionPlace store region
  | database {catalog db : String} {region : Path} (live : HasDatabase store catalog db)
      (within : region ∈ (Level.database catalog db).regions) : RegionPlace store region
  | shelf {catalog db table : String} (live : HasTable store catalog db table) :
      RegionPlace store ((Level.database catalog db).child table)

/-- The regions that hold entries. -/
inductive EntryPlace (store : Store) : Path → Prop
  | catalog {catalog : String} {region : Path}
      (created : store.hasRegion (Level.catalog catalog).root = true)
      (index : region = (Level.catalog catalog).byName ∨ region = (Level.catalog catalog).byId) :
      EntryPlace store region
  | database {catalog db : String} {region : Path} (live : HasDatabase store catalog db)
      (index : region = (Level.database catalog db).byName ∨
        region = (Level.database catalog db).byId) : EntryPlace store region
  | shelf {catalog db table : String} (live : HasTable store catalog db table)
      (created : store.hasRegion ((Level.database catalog db).child table) = true) :
      EntryPlace store ((Level.database catalog db).child table)

structure Intact (store : Store) : Prop where
  catalogs : ∀ catalog, Bytes.Short catalog → store.hasRegion (Level.catalog catalog).root = true →
    (Level.catalog catalog).Intact store Database.ident
  databases : ∀ catalog db, Bytes.Short catalog → Bytes.Short db →
    (store.hasRegion (Level.database catalog db).root = true ↔ HasDatabase store catalog db)
  tables : ∀ catalog db, Bytes.Short catalog → Bytes.Short db →
    store.hasRegion (Level.database catalog db).root = true →
    (Level.database catalog db).Intact store Table.ident
  shelves : ∀ catalog db table, Bytes.Short catalog → Bytes.Short db → Bytes.Short table →
    store.hasRegion ((Level.database catalog db).child table) = true →
    HasTable store catalog db table
  partitions : ∀ catalog db table key bytes, Bytes.Short catalog →
    Bytes.Short db → Bytes.Short table →
    store.get? ((Level.database catalog db).child table) key = some bytes →
    ∃ record : Partition, Wire.read? bytes = some record ∧
    key = Bytes.ofText (Request.joinValues record.values) ∧ record.table = none
  regionRows : ∀ key count, store.regions.find? key = some count →
    ∃ path, RegionPlace store path ∧ path.Short ∧ key = path.encode
  entryRows : ∀ key value, store.entries.find? key = some value →
    ∃ path entry, EntryPlace store path ∧ path.Short ∧ key = path.entryKey entry

section Levels

variable {ε ρ : Type} [Wire.Message ρ] [Node ε ρ] {store : Store}
  {level : Level} {index : Index ε} {valid : ε → Prop}

/-- A sound index, once it is stored, is an intact level. -/
theorem Index.Sound.intact (sound : index.Sound valid)
    (shows : Shows store level.root (index.layout level.inside)) (short : level.Short)
    (readable : ∀ node, valid node → Wire.Readable (Node.record node)) {ident : ρ → Option Ident}
    (same : ∀ node : ε, Node.ident node = ident (Node.record node)) : level.Intact store ident where
  regions := shows.hasRegion short
  agree name id := by
    rw [shows.byName short, Option.map_eq_some_iff, shows.byId short]
    constructor
    · rintro ⟨other, held, equal⟩
      obtain rfl := Bytes.ofText_injective equal
      obtain ⟨node, there, named⟩ := sound.node_of_name held
      have row : index.entries.find? (Bytes.ofText other) = some node := there
      exact ⟨_, Node.record node, by rw [row]; rfl, (readable node (sound.nodes _ _ row)).read?,
        same node ▸ named⟩
    · rintro ⟨bytes, record, held, found, named⟩
      obtain ⟨node, row, rfl⟩ := Option.map_eq_some_iff.1 held
      rw [(readable node (sound.nodes _ _ row)).read?] at found
      cases found
      obtain ⟨-, other, called, listed⟩ := sound.name_of_node row
      rw [same, named] at called
      cases called
      exact ⟨id, listed, rfl⟩
  names key value held := by
    rw [shows.byName short, Option.map_eq_some_iff] at held
    obtain ⟨id, found, rfl⟩ := held
    obtain ⟨name, -, rfl, -⟩ := sound.named key id found
    exact ⟨name, id, rfl, rfl⟩
  records key bytes held := by
    rw [shows.byId short, Option.map_eq_some_iff] at held
    obtain ⟨node, row, rfl⟩ := held
    obtain ⟨name, id, rfl, -, named, -⟩ := sound.listed key node row
    exact ⟨name, id, Node.record node, rfl, (readable node (sound.nodes _ _ row)).read?,
      same node ▸ named⟩

/-- A row below the root of a level is a row of the level itself or of one of its entities. -/
theorem Index.layout_counter {below : List String} {count : UInt64}
    (held : (index.layout level.inside).counter? below = some count) :
    level.root.extend below ∈ level.regions ∨
    ∃ id node rest, index.node? id = some node ∧ below = level.inside :: id :: rest ∧
    (Node.below node).counter? rest = some count := by
  rcases below with _ | ⟨segment, _ | ⟨id, rest⟩⟩
  · exact .inl (level.extend_mem_regions.2 (.inl rfl))
  · simp only [Index.layout] at held
    split at held
    next known => exact .inl (level.extend_mem_regions.2 (.inr (by simpa using known)))
    next => cases held
  · simp only [Index.layout, Index.below] at held
    split at held
    next inside =>
      cases found : index.node? id with
      | none => rw [found] at held; cases held
      | some node =>
        rw [found] at held
        exact .inr ⟨id, node, rest, found, inside ▸ rfl, held⟩
    next => cases held

theorem Index.layout_get {below : List String} {key value : Bytes}
    (held : (index.layout level.inside).get? below key = some value) :
    (level.root.extend below = level.byName ∨ level.root.extend below = level.byId) ∨
    ∃ id node rest, index.node? id = some node ∧ below = level.inside :: id :: rest ∧
    (Node.below node).get? rest key = some value := by
  rcases below with _ | ⟨segment, _ | ⟨id, rest⟩⟩
  · cases held
  · simp only [Index.layout] at held
    split at held
    next first => exact .inl (.inl (first ▸ rfl))
    next =>
      split at held
      next second => exact .inl (.inr (second ▸ rfl))
      next => cases held
  · simp only [Index.layout, Index.below] at held
    split at held
    next inside =>
      cases found : index.node? id with
      | none => rw [found] at held; cases held
      | some node =>
        rw [found] at held
        exact .inr ⟨id, node, rest, found, inside ▸ rfl, held⟩
    next => cases held

theorem Shelf.layout_counter {shelf : Option Shelf} {below : List String} {count : UInt64}
    (held : (Shelf.layout shelf).counter? below = some count) :
    below = [] ∧ ∃ found, shelf = some found := by
  cases below with
  | nil =>
    cases shelf with
    | none => cases held
    | some found => exact ⟨rfl, found, rfl⟩
  | cons segment rest => cases held

theorem Shelf.layout_get {shelf : Option Shelf} {below : List String} {key value : Bytes}
    (held : (Shelf.layout shelf).get? below key = some value) :
    below = [] ∧ ∃ found record, shelf = some found ∧ found.rows.find? key = some record ∧
    value = Wire.Message.encode record := by
  cases below with
  | nil =>
    cases shelf with
    | none => cases held
    | some found =>
      obtain ⟨record, row, rfl⟩ := Option.map_eq_some_iff.1 held
      exact ⟨rfl, found, record, rfl, row, rfl⟩
  | cons segment rest => cases held

end Levels

namespace Holds

variable {store : Store} {contents : Contents} {catalog db table : String}
  {index : Index DatabaseNode} {node : DatabaseNode}

theorem hasCatalog_iff (holds : Holds store contents) (short : Bytes.Short catalog) :
    store.hasRegion (Level.catalog catalog).root = true ↔
    ∃ index, contents.find? catalog = some index := by
  have level := Level.catalog_short short
  constructor
  · intro created
    have shows := holds.shows catalog
    cases found : contents.find? catalog with
    | some index => exact ⟨index, rfl⟩
    | none =>
      rw [Contents.layout, found] at shows
      have absent : store.counter? (Level.catalog catalog).root = none := (shows.here level.root).1
      rw [Store.hasRegion_eq, absent] at created
      cases created
  · rintro ⟨index, found⟩
    rw [Store.hasRegion_eq, (holds.catalog found).count level]
    rfl

theorem hasDatabase_iff (holds : Holds store contents) (short : Bytes.Short catalog) :
    HasDatabase store catalog db ↔ ∃ node, contents.database? catalog db = some node := by
  have level := Level.catalog_short short
  simp only [HasDatabase, holds.hasCatalog_iff short, Contents.database?, Option.bind_eq_some_iff]
  constructor
  · rintro ⟨⟨index, found⟩, live⟩
    rw [(holds.catalog found).byId level, Option.isSome_map, Option.isSome_iff_exists] at live
    obtain ⟨node, held⟩ := live
    exact ⟨node, index, found, held⟩
  · rintro ⟨node, index, found, held⟩
    have row : index.entries.find? (Bytes.ofText db) = some node := held
    refine ⟨⟨index, found⟩, ?_⟩
    rw [(holds.catalog found).byId level, row]
    rfl

theorem hasTable_iff (holds : Holds store contents) (short : Bytes.Short catalog)
    (dbShort : Bytes.Short db) :
    HasTable store catalog db table ↔ ∃ node, contents.table? catalog db table = some node := by
  have level := Level.database_short short dbShort
  have shows := holds.underDatabase catalog db
  simp only [HasTable, holds.hasDatabase_iff short, Contents.table?, Option.bind_eq_some_iff]
  constructor
  · rintro ⟨⟨node, found⟩, live⟩
    rw [found] at shows
    rw [Shows.byId shows level, Option.isSome_map, Option.isSome_iff_exists] at live
    obtain ⟨tableNode, held⟩ := live
    exact ⟨tableNode, node, found, held⟩
  · rintro ⟨tableNode, node, found, held⟩
    have row : node.tables.entries.find? (Bytes.ofText table) = some tableNode := held
    rw [found] at shows
    refine ⟨⟨node, found⟩, ?_⟩
    rw [Shows.byId shows level, row]
    rfl

theorem hasRegion_database_iff (holds : Holds store contents)
    (short : Bytes.Short catalog) (dbShort : Bytes.Short db) :
    store.hasRegion (Level.database catalog db).root = true ↔
    ∃ node, contents.database? catalog db = some node := by
  have level := Level.database_short short dbShort
  have shows := (holds.underDatabase catalog db).here level.root
  rw [Store.hasRegion_eq, shows.1]
  cases contents.database? catalog db with
  | none => simp [Layout.nothing]
  | some node => simp [Node.below, Index.layout]

end Holds

theorem Region.Path.Short.root {path : Path} (short : path.Short) : Bytes.Short path.root :=
  short _ List.mem_cons_self

namespace Holds

variable {store : Store} {contents : Contents}

theorem regionPlace (holds : Holds store contents) {path : Path}
    (short : path.Short) {count : UInt64} (held : store.counter? path = some count) :
    RegionPlace store path := by
  obtain ⟨catalog, below⟩ := path
  have catalogShort : Bytes.Short catalog := short.root
  rw [show (⟨catalog, below⟩ : Path) = (⟨catalog, []⟩ : Path).extend below from rfl,
    (holds.shows catalog).counter short, Contents.layout] at held
  cases found : contents.find? catalog with
  | none => rw [found] at held; cases held
  | some index =>
    rw [found] at held
    have created := (holds.hasCatalog_iff catalogShort).2 ⟨index, found⟩
    obtain within | ⟨db, node, rest, stood, rfl, inner⟩ :=
      @Index.layout_counter _ _ _ _ (Level.catalog catalog) index _ _ held
    · exact .catalog created within
    · have dbShort : Bytes.Short db := short db (by simp [Path.segments])
      have database : contents.database? catalog db = some node := by
        rw [Contents.database?, found]; exact stood
      obtain within | ⟨table, tableNode, rest, there, rfl, shelf⟩ :=
        @Index.layout_counter _ _ _ _ (Level.database catalog db) node.tables _ _ inner
      · exact .database ((holds.hasDatabase_iff catalogShort).2 ⟨node, database⟩) within
      · obtain ⟨rfl, -⟩ := Shelf.layout_counter shelf
        exact .shelf ((holds.hasTable_iff catalogShort dbShort).2
          ⟨tableNode, by rw [Contents.table?, database]; exact there⟩)

theorem entryPlace (holds : Holds store contents) {path : Path}
    (short : path.Short) {key value : Bytes} (held : store.get? path key = some value) :
    EntryPlace store path := by
  obtain ⟨catalog, below⟩ := path
  have catalogShort : Bytes.Short catalog := short.root
  rw [show (⟨catalog, below⟩ : Path) = (⟨catalog, []⟩ : Path).extend below from rfl,
    (holds.shows catalog).entry short, Contents.layout] at held
  cases found : contents.find? catalog with
  | none => rw [found] at held; cases held
  | some index =>
    rw [found] at held
    have created := (holds.hasCatalog_iff catalogShort).2 ⟨index, found⟩
    obtain within | ⟨db, node, rest, stood, rfl, inner⟩ :=
      @Index.layout_get _ _ _ _ (Level.catalog catalog) index _ _ _ held
    · exact .catalog created within
    · have dbShort : Bytes.Short db := short db (by simp [Path.segments])
      have database : contents.database? catalog db = some node := by
        rw [Contents.database?, found]; exact stood
      obtain within | ⟨table, tableNode, rest, there, rfl, shelf⟩ :=
        @Index.layout_get _ _ _ _ (Level.database catalog db) node.tables _ _ _ inner
      · exact .database ((holds.hasDatabase_iff catalogShort).2 ⟨node, database⟩) within
      · obtain ⟨rfl, filled, -, opened, -⟩ := Shelf.layout_get shelf
        have tableShort : Bytes.Short table := short table (by simp [Path.segments])
        refine .shelf ((holds.hasTable_iff catalogShort dbShort).2
          ⟨tableNode, by rw [Contents.table?, database]; exact there⟩) ?_
        rw [Store.hasRegion_eq, (holds.shelf found stood there).shelf_count
            ((Level.database_short catalogShort dbShort).child tableShort),
          opened]
        rfl

theorem intact (holds : Holds store contents) (sound : contents.Sound) : Intact store where
  catalogs catalog short created := by
    obtain ⟨index, found⟩ := (holds.hasCatalog_iff short).1 created
    exact (sound.indices _ _ found).intact (holds.catalog found)
      (Level.catalog_short short) (fun _ valid => valid.record.readable) fun _ => rfl
  databases catalog db short dbShort := by
    rw [holds.hasRegion_database_iff short dbShort, holds.hasDatabase_iff short]
  tables catalog db short dbShort created := by
    obtain ⟨node, found⟩ := (holds.hasRegion_database_iff short dbShort).1 created
    have shows := holds.underDatabase catalog db
    rw [found] at shows
    have valid := (sound.database? found).tables
    exact valid.intact shows (Level.database_short short dbShort) (fun _ valid =>
      valid.record.readable) fun _ => rfl
  shelves catalog db table short dbShort tableShort created := by
    have region := (Level.database_short short dbShort).child tableShort
    have shows := (holds.underTable catalog db table).here region
    rw [holds.hasTable_iff short dbShort]
    cases found : contents.table? catalog db table with
    | some node => exact ⟨node, rfl⟩
    | none =>
      rw [Store.hasRegion_eq, shows.1, found] at created
      cases created
  partitions catalog db table key bytes short dbShort tableShort held := by
    have region := (Level.database_short short dbShort).child tableShort
    rw [((holds.underTable catalog db table).here region).2] at held
    cases found : contents.table? catalog db table with
    | none =>
      rw [found] at held
      cases held
    | some node =>
      rw [found] at held
      obtain ⟨-, shelf, record, opened, row, rfl⟩ := Shelf.layout_get held
      have rows := (sound.table? found).shelf
      rw [opened] at rows
      obtain ⟨called, detached, fits⟩ := rows.rows key record row
      exact ⟨record, fits.readable.read?, called, detached⟩
  regionRows key count held := by
    obtain ⟨path, short, rfl⟩ := holds.keyed.regions key count held
    exact ⟨path, holds.regionPlace short held, short, rfl⟩
  entryRows key value held := by
    obtain ⟨path, entry, short, rfl⟩ := holds.keyed.entries key value held
    exact ⟨path, entry, holds.entryPlace short held, short, rfl⟩

end Holds

/-- However operations follow one another, and whether they succeed, the layout is kept. -/
theorem layout_intact (options : StoreOptions) (operations : List Operation)
    (admissible : Admissible operations) :
    Intact (Operation.runAll options ∅ operations) := by
  have reached := admissible.reached options
  exact reached.holds.intact reached.sound

/-- A table with a partition is dropped and made again, between creates and drops that fail. -/
def remade : List Operation :=
  let sales : Ident := { name := "sales" }
  let orders : Ident := { name := "orders" }
  [.createDatabase "main" { ident := some sales, sequence := 7 } "D1",
    .createTable "main" sales { ident := some orders } "T1",
    .addPartition "main" { id := "D1" } orders { values := ["2024", "01"] } "P1",
    .createDatabase "main" { ident := some sales } "D2",
    .dropPartitions "main" sales orders [["2024", "01"], ["2024", "02"]],
    .dropTable "main" sales { id := "T1" },
    .createTable "main" sales { ident := some orders } "T2",
    .addPartition "main" sales orders { values := ["2024", "02"] } "P2"]

theorem layout_intact_remade :
    Intact (Operation.runAll {} ∅ remade) ∧
    HasTable (Operation.runAll {} ∅ remade) "main" "D1" "T2" ∧
    ¬ HasTable (Operation.runAll {} ∅ remade) "main" "D1" "T1" :=
  ⟨layout_intact {} remade (by decide +kernel), by decide +kernel, by decide +kernel⟩

end TableCatalog
