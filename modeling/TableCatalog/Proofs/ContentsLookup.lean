import Mathlib.Data.List.Basic
import TableCatalog.Proofs.ContentsChanges
import TableCatalog.Proofs.ContentsSound

/-! What is looked up in a store is what stands in its contents. In sound contents a name never
leads to a record that is missing, and every record reads back, so nothing is ever found corrupt. -/

namespace TableCatalog

open Region

theorem Level.catalog_short {catalog : String} (short : Bytes.Short catalog) :
    (Level.catalog catalog).Short where
  root := by simpa [Level.catalog, Path.Short, Path.segments] using short
  inside := (by decide : Bytes.Short "DB")

theorem Level.database_short {catalog id : String} (short : Bytes.Short catalog)
    (idShort : Bytes.Short id) : (Level.database catalog id).Short where
  root := (Level.catalog_short short).child idShort
  inside := (by decide : Bytes.Short "TBLS")

section Levels

variable {ε ρ : Type} [Wire.Message ρ] [Node ε ρ] {store : Store}
  {level : Level} {index : Index ε} {valid : ε → Prop}

theorem check_eq (shows : Shows store level.root (index.layout level.inside))
    (short : level.Short) : level.check store = .ok () := by
  have exist := shows.hasRegion short
  simp only [Level.regions, List.mem_cons, List.not_mem_nil,
    or_false, forall_eq_or_imp, forall_eq] at exist
  obtain ⟨-, names, ids, inner⟩ := exist
  simp only [Level.check, List.forM_eq_forM, List.forM_cons, List.forM_nil, names, ids, inner]
  rfl

theorem resolve_eq (shows : Shows store level.root (index.layout level.inside))
    (short : level.Short) (entity : Entity) (ident : Ident) :
    resolve store level entity ident = index.resolve entity ident := by
  simp only [resolve, Index.resolve, Index.id?, shows.byName short]
  cases index.names.find? (Bytes.ofText ident.name) with
  | none => rfl
  | some id => simp only [Option.map_some, Bytes.text?_ofText]

/-- An entity that is missing under an identifier was not looked up by its name. -/
theorem readEntity_eq (shows : Shows store level.root (index.layout level.inside))
    (short : level.Short) (sound : index.Sound valid)
    (readable : ∀ node, valid node → Wire.Readable (Node.record node))
    (entity : Entity) (ident : Ident) :
    readEntity store level entity ident =
      (index.find entity ident (.absent (entity.text ++ " " ++ ident.text))).map fun (id, node) =>
        (id, Node.record node) := by
  simp only [readEntity, Index.find, resolve_eq shows short]
  cases resolved : index.resolve entity ident with
  | error fault => rfl
  | ok id =>
    simp only [bind, Except.bind, storedBytes, shows.byId short]
    cases found : index.node? id with
    | some node =>
      have held : index.entries.find? (Bytes.ofText id) = some node := found
      simp only [held, Option.map_some, (readable node (sound.nodes _ _ held)).decode]
      rfl
    | none =>
      have absent : index.entries.find? (Bytes.ofText id) = none := found
      simp only [absent, Option.map_none, sound.given_of_missing resolved found]
      rfl

end Levels

namespace Holds

variable {store : Store} {contents : Contents} {name id : String}
  {index : Index DatabaseNode} {node : DatabaseNode} {db table : Ident}

theorem catalog (holds : Holds store contents) (found : contents.find? name = some index) :
    Shows store (Level.catalog name).root (index.layout (Level.catalog name).inside) := by
  have shows := holds.shows name
  rw [Contents.layout, found] at shows
  exact shows

/-- What the region of a database shows, be the database there or not. -/
theorem underDatabase (holds : Holds store contents) (name id : String) :
    Shows store (Level.database name id).root
      ((contents.database? name id).elim .nothing Node.below) := by
  cases found : contents.find? name with
  | none =>
    have shows := holds.shows name
    rw [Contents.layout, found] at shows
    rw [Contents.database?, found]
    intro below short
    exact shows ("DB" :: id :: below) short
  | some index =>
    rw [Contents.database?, found]
    exact (holds.catalog found).child id

theorem database (holds : Holds store contents) (found : contents.find? name = some index)
    (held : index.node? id = some node) :
    Shows store (Level.database name id).root
      (node.tables.layout (Level.database name id).inside) := by
  have shows := holds.underDatabase name id
  rw [Contents.database?, found, Option.bind_some, held] at shows
  exact shows

/-- What the region of a table shows, be the table there or not. -/
theorem underTable (holds : Holds store contents) (name db id : String) :
    Shows store ((Level.database name db).child id)
      ((contents.table? name db id).elim .nothing Node.below) := by
  have shows := holds.underDatabase name db
  cases found : contents.database? name db with
  | none =>
    rw [found] at shows
    rw [Contents.table?, found]
    intro below short
    exact shows ("TBLS" :: id :: below) short
  | some node =>
    rw [found] at shows
    rw [Contents.table?, found]
    exact Shows.child shows id

theorem shelf (holds : Holds store contents) (found : contents.find? name = some index)
    (held : index.node? id = some node) {tableId : String} {tableNode : TableNode}
    (there : node.tables.node? tableId = some tableNode) :
    Shows store ((Level.database name id).child tableId) (Shelf.layout tableNode.shelf) := by
  have shows := holds.underTable name id tableId
  rw [Contents.table?, Contents.database?, found, Option.bind_some,
    held, Option.bind_some, there] at shows
  exact shows

theorem openCatalog (holds : Holds store contents) (short : Bytes.Short name) :
    openCatalog store name = (contents.catalog name).map fun _ => Level.catalog name := by
  have level := Level.catalog_short short
  cases found : contents.find? name with
  | none =>
    have absent : store.counter? (Level.catalog name).root = none := by
      have shows := holds.shows name
      rw [Contents.layout, found] at shows
      exact (shows.here level.root).1
    simp only [TableCatalog.openCatalog, Contents.catalog, found, Store.hasRegion_eq, absent]
    rfl
  | some index =>
    have shows := holds.catalog found
    simp only [TableCatalog.openCatalog, Contents.catalog, found,
      Store.hasRegion_eq, shows.count level, check_eq shows level]
    rfl

/-- Where a lookup of a database leads, and that its region is there. -/
theorem openDatabase (holds : Holds store contents) (sound : contents.Sound)
    (short : Bytes.Short name) (dbShort : db.Short) :
    openDatabase store name db = (contents.database name db).map fun found =>
      Level.database name found.id := by
  simp only [TableCatalog.openDatabase, Contents.database, holds.openCatalog short,
    Contents.catalog]
  cases found : contents.find? name with
  | none => rfl
  | some index =>
    have shows := holds.catalog found
    have level := Level.catalog_short short
    have indexSound := sound.indices _ _ found
    simp only [Except.map, bind, Except.bind, resolve_eq shows level, Index.find]
    cases resolved : index.resolve .database db with
    | error fault => rfl
    | ok id =>
      have inner := Level.database_short short (indexSound.short_of_resolve dbShort resolved)
      cases held : index.node? id with
      | none =>
        have absent : store.counter? (Level.database name id).root = none :=
          ((shows.child_nothing held).here inner.root).1
        simp only [held, Store.hasRegion_eq, absent]
        rfl
      | some node =>
        have below := holds.database found held
        simp only [held, Store.hasRegion_eq, below.count inner, check_eq below inner]
        rfl

theorem readDatabase (holds : Holds store contents) (sound : contents.Sound)
    (short : Bytes.Short name) (found : contents.find? name = some index) :
    readEntity store (Level.catalog name) .database db =
      (index.find .database db (.absent ("database " ++ db.text))).map fun (id, node) =>
        (id, node.record) :=
  readEntity_eq (holds.catalog found) (Level.catalog_short short)
    (sound.indices _ _ found) (fun _ valid => valid.record.readable) .database db

theorem openTable (holds : Holds store contents) (sound : contents.Sound)
    (short : Bytes.Short name) (dbShort : db.Short) :
    openTable store name db table = (contents.scope name db table).map fun found =>
      ⟨Level.database name found.db.id, found.id⟩ := by
  simp only [TableCatalog.openTable, Contents.scope, Contents.table,
    holds.openDatabase sound short dbShort]
  cases here : contents.database name db with
  | error fault => rfl
  | ok found =>
    obtain ⟨there, indexSound, stood, node⟩ := sound.database here
    have shows := holds.database there stood
    have level := Level.database_short short (indexSound.name_of_node stood).1
    simp only [Except.map, bind, Except.bind, resolve_eq shows level, Index.find]
    cases resolved : found.node.tables.resolve .table table with
    | error fault => rfl
    | ok id =>
      simp only [shows.byId level]
      cases held : found.node.tables.node? id with
      | some tableNode =>
        have row : found.node.tables.entries.find? (Bytes.ofText id) = some tableNode := held
        simp only [row]
        rfl
      | none =>
        have row : found.node.tables.entries.find? (Bytes.ofText id) = none := held
        simp only [row, node.tables.given_of_missing resolved held]
        rfl

theorem readTable (holds : Holds store contents) (sound : contents.Sound) (short : Bytes.Short name)
    {found : Contents.FoundDatabase} (here : contents.database name db = .ok found) :
    readEntity store (Level.database name found.id) .table table =
      (found.node.tables.find .table table (.absent ("table " ++ table.text))).map fun (id, node) =>
        (id, node.record) := by
  obtain ⟨there, indexSound, stood, node⟩ := sound.database here
  have level := Level.database_short short (indexSound.name_of_node stood).1
  exact readEntity_eq (holds.database there stood) level node.tables
    (fun _ valid => valid.record.readable) .table table

variable {missing : Fault} {found : Contents.FoundTable}

theorem read (holds : Holds store contents) (sound : contents.Sound) (short : Bytes.Short name)
    (here : contents.table name db table missing = .ok found) :
    TableRef.read store ⟨Level.database name found.db.id, found.id⟩ = .ok found.node.record := by
  obtain ⟨here, stood, node⟩ := sound.table here
  obtain ⟨there, indexSound, held, -⟩ := sound.database here
  have level := Level.database_short short (indexSound.name_of_node held).1
  have row : found.db.node.tables.entries.find? (Bytes.ofText found.id) = some found.node := stood
  simp only [TableRef.read, (holds.database there held).byId level, row, Option.map_some]
  exact node.record.readable.decode _

theorem found_shelf (holds : Holds store contents) (sound : contents.Sound)
    (short : Bytes.Short name) (tableShort : table.Short)
    (here : contents.table name db table missing = .ok found) :
    Shows store ((Level.database name found.db.id).child found.id) (Shelf.layout found.node.shelf) ∧
    ((Level.database name found.db.id).child found.id).Short := by
  obtain ⟨here, resolved, stood⟩ := Contents.table_eq_ok.1 here
  obtain ⟨there, indexSound, held, node⟩ := sound.database here
  have level := Level.database_short short (indexSound.name_of_node held).1
  exact ⟨holds.shelf there held stood,
    level.child (node.tables.short_of_resolve tableShort resolved)⟩

theorem partition? (holds : Holds store contents) (sound : contents.Sound)
    (short : Bytes.Short name) (tableShort : table.Short)
    (here : contents.table name db table missing = .ok found) (key : String) :
    TableRef.partition? store ⟨Level.database name found.db.id, found.id⟩ key =
      ((found.node.shelf.getD {}).rows.find? (Bytes.ofText key)).map Wire.Message.encode := by
  obtain ⟨shows, region⟩ := holds.found_shelf sound short tableShort here
  simp only [TableRef.partition?, TableRef.partitions, Store.hasRegion_eq,
    shows.shelf_count region, shows.shelf_row region]
  cases found.node.shelf <;> rfl

end Holds

theorem recordsIn_eq {α ε : Type} [Wire.Message α] {store : Store}
    {region : Path} {rows : SortedMap Bytes ε} {record : ε → α}
    (stored : ∀ key, store.get? region key =
      (rows.find? key).map fun node => Wire.Message.encode (record node))
    (readable : ∀ key node, rows.find? key = some node → Wire.Readable (record node)) :
    recordsIn store region = rows.toList.map fun row => record row.2 := by
  have scanned : store.scan region = rows.toList.map fun row =>
    (row.1, Wire.Message.encode (record row.2)) := by
    refine SortedMap.eq_of_pairwise_of_mem_iff (store.scan_sorted region)
      (List.pairwise_map.2 rows.sorted) fun ⟨key, value⟩ => ?_
    rw [Store.mem_scan, stored, Option.map_eq_some_iff, List.mem_map]
    constructor
    · rintro ⟨node, held, rfl⟩
      exact ⟨(key, node), SortedMap.find?_eq_some_iff.1 held, rfl⟩
    · rintro ⟨⟨other, node⟩, held, same⟩
      cases same
      exact ⟨node, SortedMap.find?_eq_some_iff.2 held, rfl⟩
  rw [recordsIn, scanned, List.filterMap_map]
  refine List.filterMap_eq_map_iff_forall_eq_some.2 fun row held => ?_
  exact (readable row.1 row.2 (SortedMap.find?_eq_some_iff.2 held)).read?

end TableCatalog
