import Mathlib.Data.List.Sort
import TableCatalog.Proofs.ContentsOrigins
import TableCatalog.Proofs.LastingRecords
import TableCatalog.Proofs.ListingLoops

/-! Listings and lookups agree. A listing walks the index of identifiers, a lookup by name goes
through the index of names, one by identifier goes past it, and tables are reached through the
region of their database. All of them tell of the same entities, and as identifiers rise from one
create to the next, a listing is in the order of time. -/

namespace TableCatalog

open Region

def idOf (ident : Option Ident) : String := (ident.map (·.id)).getD ""

/-- How a listing ends, and what it has sent to a sink that keeps everything. -/
def collected {α : Type} (listing : Emission (List α) Unit) : Except Fault Unit × List α :=
  Emission.run listing []

def databasesListed (store : Store) (catalog : String) (listing : DatabaseListing) :
    List Database :=
  (collected (listDatabases store catalog listing Sink.collect)).2

def tablesListed (store : Store) (catalog : String) (db : Ident)
    (shown : List String) : List Table :=
  (collected (listTables store catalog db shown Sink.collect)).2

/-- The identifiers that a run draws rise, and none of them is empty. -/
structure Rising (operations : List Operation) : Prop where
  short : ∀ operation ∈ operations, operation.Short
  rises : (operations.filterMap Operation.fresh?).Pairwise fun earlier later =>
    Bytes.ofText earlier < Bytes.ofText later
  given : "" ∉ operations.filterMap Operation.fresh?

instance (operations : List Operation) : Decidable (Rising operations) :=
  decidable_of_iff ((∀ operation ∈ operations, operation.Short) ∧
      (operations.filterMap Operation.fresh?).Pairwise (fun earlier later =>
        Bytes.ofText earlier < Bytes.ofText later) ∧
      "" ∉ operations.filterMap Operation.fresh?)
    ⟨fun ⟨short, rises, given⟩ => ⟨short, rises, given⟩,
      fun ⟨short, rises, given⟩ => ⟨short, rises, given⟩⟩

/-- The records of a listing are those of the entities that are there, each once and in the order in
which they were made, and lookups find these records and no others. -/
structure Agrees {α : Type} (ident : α → Option Ident) (get : Ident → Except Fault α)
    (there : String → Prop) (made : List Bytes) (records : List α) : Prop where
  once : ∀ id, there id → (records.map fun record => idOf (ident record)).count id = 1
  only : ∀ record ∈ records, there (idOf (ident record))
  ascending : records.Pairwise fun earlier later =>
    Bytes.ofText (idOf (ident earlier)) < Bytes.ofText (idOf (ident later))
  inOrder : (records.map fun record => Bytes.ofText (idOf (ident record))).Sublist made
  byName : ∀ record ∈ records, get (.named (nameOf (ident record))) = .ok record
  byId : ∀ record ∈ records, get { id := idOf (ident record) } = .ok record
  listed : ∀ sought record, get sought = .ok record → record ∈ records

/-- In a catalog, and in each of its databases under whichever of its identities. -/
structure ListingsAgree (store : Store) (log : List Issue) (catalog : String) : Prop where
  databases : Agrees Database.ident (getDatabase store catalog)
    (HasDatabase store catalog) (keysIn (.catalog catalog) log) (databasesListed store catalog {})
  databasesShown : ∀ listing,
    databasesListed store catalog listing = (databasesListed store catalog {}).map fun record =>
    let shown := Projectable.project record listing.shown []
    if listing.hideParams then { shown with params := ∅, systemParams := ∅ } else shown
  answered : catalog ≠ "" →
    ∀ listing, (collected (listDatabases store catalog listing Sink.collect)).1 = .ok ()
  tables : ∀ (db parent : Ident) owner, db.Short → ¬ db.Blank →
    LiveDatabase store catalog db owner →
    parent.Short → ¬ parent.Blank → LiveDatabase store catalog parent owner →
    Agrees Table.ident (getTable store catalog parent) (HasTable store catalog owner)
      (keysIn (.database catalog owner) log) (tablesListed store catalog db [])
  tablesShown : ∀ (db : Ident) owner shown, db.Short → ¬ db.Blank →
    LiveDatabase store catalog db owner →
    tablesListed store catalog db shown = (tablesListed store catalog db []).map fun record =>
      Projectable.project record shown []
  tablesAnswered : ∀ (db : Ident) owner shown, db.Short → ¬ db.Blank →
    LiveDatabase store catalog db owner →
    (collected (listTables store catalog db shown Sink.collect)).1 = .ok ()

private theorem forM_collect {α : Type} (records kept : List α) :
    (records.forM (Sink.collect (α := α))).run kept = (.ok (), kept ++ records) := by
  induction records generalizing kept with
  | nil => rw [List.append_nil]; rfl
  | cons record rest ih =>
    have next : ((record :: rest).forM (Sink.collect (α := α))).run kept =
      (rest.forM (Sink.collect (α := α))).run (kept ++ [record]) := rfl
    rw [next, ih, List.append_assoc]
    rfl

theorem collected_send {α : Type} (records : List α) :
    collected (Sink.collect.send (.ok records)) = (.ok (), records) := forM_collect records []

section Levels

variable {ε ρ : Type} [Wire.Message ρ] [Node ε ρ] {index : Index ε} {valid : ε → Prop}

/-- A row stands under the identifier of its record. -/
theorem Index.Sound.node_of_row (sound : index.Sound valid) {row : Bytes × ε}
    (held : row ∈ index.entries.toList) :
    row.1 = Bytes.ofText (idOf (Node.ident row.2)) ∧
    index.node? (idOf (Node.ident row.2)) = some row.2 := by
  have found := SortedMap.find?_eq_some_iff.2 held
  obtain ⟨name, id, key, -, named, -⟩ := sound.listed row.1 row.2 found
  rw [named]
  rw [key] at found
  exact ⟨key, found⟩

/-- A node has its row, and its record has its identifier. -/
theorem Index.Sound.row_of_node (sound : index.Sound valid) {id : String}
    {node : ε} (held : index.node? id = some node) :
    (Bytes.ofText id, node) ∈ index.entries.toList ∧ idOf (Node.ident node) = id := by
  obtain ⟨-, name, called, -⟩ := sound.name_of_node held
  rw [called]
  exact ⟨SortedMap.find?_eq_some_iff.1 held, rfl⟩

/-- Rows are in the order of the identifiers in their records. -/
theorem Index.Sound.keys_of_rows (sound : index.Sound valid) :
    (index.entries.toList.map fun row => Bytes.ofText (idOf (Node.ident row.2))) =
      index.entries.toList.map (·.1) := by
  apply List.map_congr_left
  intro row held
  exact (sound.node_of_row held).1.symm

variable {ident : ρ → Option Ident} {get : Ident → Except Fault ρ}
  {there : String → Prop} {made : List Bytes}

/-- What makes a listing of a sound index agree with
lookups: they find its nodes by all that calls them. -/
theorem Index.Sound.agrees (sound : index.Sound valid)
    (same : ∀ node : ε, Node.ident node = ident (Node.record node))
    (reads : ∀ sought record, get sought = .ok record ↔
      ¬ sought.Blank ∧ ∃ id node, index.node? id = some node ∧ sought.Calls
      (nameOf (Node.ident node)) id ∧ Node.record node = record)
    (stands : ∀ id, there id ↔ ∃ node, index.node? id = some node)
    (named : ∀ id node, index.node? id = some node →
      nameOf (Node.ident node) ≠ "" ∧ id ≠ "" ∧ Bytes.ofText id ∈ made)
    (rising : made.Pairwise (· < ·)) :
    Agrees ident get there made (index.entries.toList.map fun row => Node.record row.2) := by
  have keys : (index.entries.toList.map fun row =>
      Bytes.ofText (idOf (ident (Node.record row.2)))) = index.entries.toList.map (·.1) := by
    simp only [← same, sound.keys_of_rows]
  have sorted : (index.entries.toList.map (·.1)).Pairwise (· < ·) :=
    List.pairwise_map.2 index.entries.sorted
  have distinct : (index.entries.toList.map fun row => idOf (ident (Node.record row.2))).Nodup := by
    apply List.Nodup.of_map Bytes.ofText
    rw [List.map_map]
    exact (keys ▸ sorted).nodup
  constructor
  case once =>
    intro id stood
    obtain ⟨node, held⟩ := (stands id).1 stood
    obtain ⟨row, called⟩ := sound.row_of_node held
    rw [List.map_map]
    apply List.count_eq_one_of_mem distinct
    exact List.mem_map.2 ⟨_, row, (congrArg idOf (same node)).symm.trans called⟩
  case only =>
    intro record held
    obtain ⟨row, inside, rfl⟩ := List.mem_map.1 held
    rw [← same]
    exact (stands _).2 ⟨row.2, (sound.node_of_row inside).2⟩
  case ascending =>
    rw [← List.pairwise_map (f := fun record => Bytes.ofText (idOf (ident record))), List.map_map]
    exact keys ▸ sorted
  case inOrder =>
    rw [List.map_map]
    show (index.entries.toList.map fun row =>
      Bytes.ofText (idOf (ident (Node.record row.2)))).Sublist made
    rw [keys]
    apply List.sublist_of_subperm_of_pairwise _ sorted rising
    apply List.subperm_of_subset sorted.nodup
    intro key held
    obtain ⟨row, inside, rfl⟩ := List.mem_map.1 held
    obtain ⟨address, stood⟩ := sound.node_of_row inside
    rw [address]
    exact (named _ _ stood).2.2
  case byName =>
    intro record held
    obtain ⟨row, inside, rfl⟩ := List.mem_map.1 held
    have stood := (sound.node_of_row inside).2
    have calls : (Ident.named (nameOf (ident (Node.record row.2)))).Calls
        (nameOf (Node.ident row.2)) (idOf (Node.ident row.2)) := by
      rw [← same]
      exact (if_pos rfl).mpr rfl
    exact (reads _ _).2 ⟨calls.not_blank (named _ _ stood).1, _, _, stood, calls, rfl⟩
  case byId =>
    intro record held
    obtain ⟨row, inside, rfl⟩ := List.mem_map.1 held
    obtain ⟨-, stood⟩ := sound.node_of_row inside
    rw [← same]
    have given := (named _ _ stood).2.1
    refine (reads _ _).2 ⟨fun blank => given blank.2, _, _, stood, ?_, rfl⟩
    rw [Ident.Calls, if_neg given]
  case listed =>
    intro sought record found
    obtain ⟨-, id, node, stood, -, rfl⟩ := (reads _ _).1 found
    exact List.mem_map.2 ⟨_, (sound.row_of_node stood).1, rfl⟩

end Levels

section Contents

variable {store : Store} {contents : Contents} {catalog owner : String} {db parent table : Ident}

theorem Contents.Sound.getDatabase_iff (sound : contents.Sound) {record : Database} :
    contents.getDatabase catalog db = .ok record ↔
      catalog ≠ "" ∧ ¬ db.Blank ∧ ∃ id node, contents.database? catalog id = some node ∧
      db.Calls (nameOf node.record.ident) id ∧ node.record = record := by
  rw [Contents.getDatabase_eq_ok]
  constructor
  · intro ⟨named, formed, found, here, same⟩
    obtain ⟨stood, calls⟩ := sound.database_iff.1 ⟨found, here, rfl, rfl⟩
    exact ⟨named, formed, found.id, found.node, stood, calls, same⟩
  · intro ⟨named, formed, id, node, stood, calls, same⟩
    obtain ⟨found, here, -, rfl⟩ := sound.database_iff.2 ⟨stood, calls⟩
    exact ⟨named, formed, found, here, same⟩

theorem Contents.Sound.getTable_iff (sound : contents.Sound) {found : Contents.FoundDatabase}
    (here : contents.database catalog db = .ok found) {record : Table} :
    contents.getTable catalog db table = .ok record ↔
      (catalog ≠ "" ∧ ¬ db.Blank ∧ ¬ table.Blank) ∧
      ∃ id node, found.node.tables.node? id = some node ∧
      table.Calls (nameOf node.record.ident) id ∧ node.record = record := by
  have index := (sound.database here).2.2.2.tables
  rw [Contents.getTable_eq_ok]
  constructor
  · intro ⟨formed, located, there, same⟩
    obtain ⟨placed, resolved, held⟩ := Contents.table_eq_ok.1 there
    obtain rfl := Except.ok.inj (here.symm.trans placed)
    exact ⟨formed, located.id, located.node, held, (index.resolve_iff held).1 resolved, same⟩
  · intro ⟨formed, id, node, held, calls, same⟩
    exact ⟨formed, ⟨found, id, node⟩,
      Contents.table_eq_ok.2 ⟨here, (index.resolve_iff held).2 calls, held⟩, same⟩

/-- A database is found the same under each of its identities. -/
theorem Contents.Sound.found_unique (sound : contents.Sound)
    {found located : Contents.FoundDatabase} (here : contents.database catalog db = .ok found)
    (placed : contents.database catalog parent = .ok located) (same : located.id = found.id) :
    located = found := by
  obtain ⟨there, -, stood, -⟩ := sound.database here
  obtain ⟨thereToo, -, stoodToo, -⟩ := sound.database placed
  obtain ⟨index, id, node⟩ := located
  cases same
  cases thereToo.symm.trans there
  cases stoodToo.symm.trans stood
  rfl

namespace Holds

variable (holds : Holds store contents) (sound : contents.Sound) (short : Bytes.Short catalog)
include holds sound short

/-- A catalog without a name lists nothing, and has nothing to list. -/
theorem databasesListed (named : ∀ index, contents.find? catalog = some index → catalog ≠ "")
    (listing : DatabaseListing) :
    databasesListed store catalog listing = ((contents.find? catalog).getD {}).entries.toList.map
      fun row => listing.apply row.2.record := by
  rw [TableCatalog.databasesListed, listDatabases_eq, holds.findDatabases sound short]
  by_cases some : catalog = ""
  · have none : contents.find? catalog = none :=
      Option.eq_none_iff_forall_ne_some.2 fun index there => named index there some
    rw [none]
    subst some
    rfl
  · have passed : Request.requireCatalog catalog = .ok () := Request.requireCatalog_eq_ok.2 some
    rw [Contents.findDatabases, passed]
    exact congrArg Prod.snd (collected_send _)

theorem databasesAnswered (some : catalog ≠ "") (listing : DatabaseListing) :
    (collected (listDatabases store catalog listing Sink.collect)).1 = .ok () := by
  have passed : Request.requireCatalog catalog = .ok () := Request.requireCatalog_eq_ok.2 some
  rw [listDatabases_eq, holds.findDatabases sound short, Contents.findDatabases, passed]
  exact congrArg Prod.fst (collected_send _)

theorem tablesCollected (some : catalog ≠ "") (dbShort : db.Short) (formed : ¬ db.Blank)
    {found : Contents.FoundDatabase} (here : contents.database catalog db = .ok found)
    (shown : List String) :
    collected (listTables store catalog db shown Sink.collect) =
      (.ok (), found.node.tables.entries.toList.map fun row =>
        Projectable.project row.2.record shown []) := by
  rw [listTables_eq, holds.findTables sound short dbShort,
    Contents.findTables_eq_ok.2 ⟨some, formed, found, here, rfl⟩]
  exact collected_send _

variable {log : List Issue} (founded : Founded contents log)
  (given : ∀ id, contents.Uses id → id ≠ "")
include founded given

theorem databases_agree (rising : (keysIn (.catalog catalog) log).Pairwise (· < ·)) :
    Agrees Database.ident (TableCatalog.getDatabase store catalog) (HasDatabase store catalog)
      (keysIn (.catalog catalog) log) (TableCatalog.databasesListed store catalog {}) := by
  have named := founded.catalogs catalog
  have stands (id : String) : contents.database? catalog id =
    ((contents.find? catalog).getD {}).node? id := Contents.database?_of_opened rfl
  rw [holds.databasesListed sound short named]
  refine (sound.opened catalog).agrees (fun _ => rfl) ?reads ?there ?made rising
  case reads =>
    intro sought record
    rw [holds.getDatabase sound short, sound.getDatabase_iff]
    simp only [stands]
    constructor
    · exact fun found => found.2
    · rintro ⟨formed, id, node, held, meant⟩
      obtain ⟨index, there, -⟩ := Option.bind_eq_some_iff.1 ((stands id).trans held)
      exact ⟨named index there, formed, id, node, held, meant⟩
  case there =>
    intro id
    rw [holds.hasDatabase_iff short]
    simp only [stands]
  case made =>
    intro id node held
    have stood := (stands id).trans held
    obtain ⟨called, made⟩ := founded.databases catalog id node stood
    obtain ⟨index, there, held⟩ := Option.bind_eq_some_iff.1 stood
    exact ⟨called, given id ⟨catalog, index, there, .inl ⟨node, held⟩⟩, made⟩

theorem tables_agree {found : Contents.FoundDatabase}
    (here : contents.database catalog db = .ok found)
    (placed : contents.database catalog parent = .ok found) (dbShort : db.Short)
    (formed : ¬ db.Blank) (parentShort : parent.Short) (parentFormed : ¬ parent.Blank)
    (rising : (keysIn (.database catalog found.id) log).Pairwise (· < ·)) :
    Agrees Table.ident (TableCatalog.getTable store catalog parent)
      (HasTable store catalog found.id) (keysIn (.database catalog found.id) log)
      (tablesListed store catalog db []) := by
  obtain ⟨there, index, stood, node⟩ := sound.database here
  have some := founded.catalogs catalog _ there
  rw [tablesListed, holds.tablesCollected sound short some dbShort formed here]
  refine node.tables.agrees (fun _ => rfl) ?reads ?there ?made rising
  case reads =>
    intro sought record
    rw [holds.getTable sound short parentShort, sound.getTable_iff placed]
    constructor
    · exact fun found => ⟨found.1.2.2, found.2⟩
    · exact fun found => ⟨⟨some, parentFormed, found.1⟩, found.2⟩
  case there =>
    intro id
    rw [holds.hasTable_iff short (index.name_of_node stood).1, Contents.table?_of_database here]
  case made =>
    intro id table held
    obtain ⟨called, made⟩ :=
      founded.tables catalog found.id id table ((Contents.table?_of_database here).trans held)
    exact ⟨called, given id (.of_table here held), made⟩

end Holds

theorem Rising.admissible {operations : List Operation} (rising : Rising operations) :
    Admissible operations where
  short := rising.short
  fresh := (List.pairwise_map.2 rising.rises).nodup.of_map

theorem Rising.keysIn {operations : List Operation}
    (rising : Rising operations) (options : StoreOptions) {scope : Scope}
    (index : ∀ catalog owner id, scope ≠ .table catalog owner id) :
    (keysIn scope (issues options ∅ operations)).Pairwise (· < ·) :=
  (List.pairwise_map.2 rising.rises).sublist (keysIn_issues index operations)

end Contents

theorem listings_agree (options : StoreOptions) (operations : List Operation)
    (rising : Rising operations) (catalog : String) (short : Bytes.Short catalog) :
    ListingsAgree (Operation.runAll options ∅ operations)
      (issues options ∅ operations) catalog := by
  have reached := rising.admissible.reached options
  have founded := rising.admissible.founded options
  obtain ⟨holds, sound, used⟩ := reached
  have given (id : String) (drawn : (Contents.runAll options ∅ operations).Uses id) : id ≠ "" := by
    intro none
    cases none
    exact rising.given (used "" drawn)
  have named := founded.catalogs catalog
  constructor
  · exact holds.databases_agree sound short founded given (rising.keysIn options nofun)
  · intro listing
    rw [holds.databasesListed sound short named,
      holds.databasesListed sound short named, List.map_map]
    rfl
  · exact fun some listing => holds.databasesAnswered sound short some listing
  · intro db parent owner dbShort formed live parentShort parentFormed parentLive
    obtain ⟨found, here, rfl⟩ := (holds.liveDatabase_iff sound short).1 live
    obtain ⟨located, placed, same⟩ := (holds.liveDatabase_iff sound short).1 parentLive
    obtain rfl := sound.found_unique here placed same
    exact holds.tables_agree sound short founded given here placed
      dbShort formed parentShort parentFormed (rising.keysIn options nofun)
  · intro db owner shown dbShort formed live
    obtain ⟨found, here, rfl⟩ := (holds.liveDatabase_iff sound short).1 live
    have some := named _ (sound.database here).1
    rw [tablesListed, tablesListed, holds.tablesCollected sound short some dbShort formed here,
      holds.tablesCollected sound short some dbShort formed here,
      List.map_map]
    rfl
  · intro db owner shown dbShort formed live
    obtain ⟨found, here, rfl⟩ := (holds.liveDatabase_iff sound short).1 live
    rw [holds.tablesCollected sound short (named _ (sound.database here).1) dbShort formed here]

/-- A database is dropped and made again behind the others,
one is altered, and a create fails on its name. -/
def remadeBehind : List Operation :=
  let sales : Ident := { name := "sales" }
  [.createDatabase "main" { ident := some sales } "1",
    .createDatabase "main" { ident := some { name := "archive" } } "2",
    .dropDatabase "main" sales, .createDatabase "other" { ident := some sales } "3",
    .createDatabase "main" { ident := some sales, params := .ofList [("k", "v")] } "4",
    .createDatabase "main" { ident := some sales } "5",
    .createTable "main" sales { ident := some { name := "orders" } } "6",
    .createTable "main" { id := "4" } { ident := some { name := "bills" } } "7",
    .alterDatabase "main" { id := "2" } { location := "/cold" }]

theorem listings_agree_remade :
    let store := Operation.runAll {} ∅ remadeBehind
    ListingsAgree store (issues {} ∅ remadeBehind) "main" ∧
    (databasesListed store "main" {}).map (fun record => (nameOf record.ident, idOf record.ident)) =
      [("archive", "2"), ("sales", "4")] ∧
    (tablesListed store "main" { name := "sales" } ["id"]).map (·.ident) =
      [some ⟨"orders", "6"⟩, some ⟨"bills", "7"⟩] :=
  ⟨listings_agree {} remadeBehind (by decide +kernel) "main" (by decide +kernel), by
      decide +kernel, by decide +kernel⟩

end TableCatalog
