import TableCatalog.Proofs.ContentsFaults
import TableCatalog.Proofs.LayoutInvariant

/-! When an operation fails, and how. In every store that a run can reach a malformed request is
refused, then what is missing is not found, then what is there already is reported, and all else
succeeds; nothing is ever found corrupt. -/

namespace TableCatalog

open Region

/-- The entity that an identity designates: by its identifier
if one is given, or else by the name in its record. -/
def Level.Designates {α : Type} [Wire.Message α] (store : Store)
    (level : Level) (ident : α → Option Ident) (sought : Ident) (id : String) : Prop :=
  ∃ bytes, store.get? level.byId (Bytes.ofText id) = some bytes ∧
    if sought.id = "" then ∃ record, Wire.read? bytes = some record ∧
    nameOf (ident record) = sought.name else id = sought.id

def LiveDatabase (store : Store) (catalog : String) (db : Ident) (id : String) : Prop :=
  store.hasRegion (Level.catalog catalog).root = true ∧
  (Level.catalog catalog).Designates store Database.ident db id

def LiveTable (store : Store) (catalog : String) (db table : Ident) (owner id : String) : Prop :=
  LiveDatabase store catalog db owner ∧
  (Level.database catalog owner).Designates store Table.ident table id

def LivePartition (store : Store) (catalog : String) (db table : Ident)
    (values : List String) : Prop :=
  ∃ owner id, LiveTable store catalog db table owner id ∧
    (store.get? ((Level.database catalog owner).child id)
      (Bytes.ofText (Request.joinValues values))).isSome = true

namespace Operation

/-- The request lacks something, whatever the store holds. -/
def Malformed : Operation → Prop
  | listDatabases catalog _ => catalog = ""
  | createDatabase catalog record _ => catalog = "" ∨ nameOf record.ident = ""
  | getDatabase catalog db | alterDatabase catalog db _ | dropDatabase catalog db
  | listTables catalog db _ => catalog = "" ∨ db.Blank
  | createTable catalog db record _ => catalog = "" ∨ db.Blank ∨ nameOf record.ident = ""
  | getTable catalog db table | dropTable catalog db table => catalog = "" ∨ db.Blank ∨ table.Blank
  | addPartition catalog db table record _ =>
    (catalog = "" ∨ db.Blank ∨ table.Blank) ∨ Request.joinValues record.values = ""
  | getPartition catalog db table values _ | dropPartition catalog db table values =>
    (catalog = "" ∨ db.Blank ∨ table.Blank) ∨ Request.joinValues values = ""
  | listPartitions catalog db table listing =>
    (catalog = "" ∨ db.Blank ∨ table.Blank) ∨
      ∃ values ∈ listing.filter, Request.joinValues values = ""
  | dropPartitions catalog db table tuples =>
    (catalog = "" ∨ db.Blank ∨ table.Blank) ∨ ∃ values ∈ tuples, Request.joinValues values = ""

/-- Something that the operation must find is not there. A listing of databases must find nothing,
and neither must a drop of no partitions. -/
def Missing (store : Store) : Operation → Prop
  | listDatabases .. | createDatabase .. => False
  | getDatabase catalog db | alterDatabase catalog db _ | dropDatabase catalog db
  | listTables catalog db _ | createTable catalog db _ _ =>
    ¬ ∃ id, LiveDatabase store catalog db id
  | getTable catalog db table | dropTable catalog db table | addPartition catalog db table _ _
  | listPartitions catalog db table _ =>
    ¬ ∃ owner id, LiveTable store catalog db table owner id
  | getPartition catalog db table values _ | dropPartition catalog db table values =>
    ¬ LivePartition store catalog db table values
  | dropPartitions catalog db table tuples =>
    ∃ values ∈ tuples, ¬ LivePartition store catalog db table values

/-- The name or the key of what is to be made is in use. -/
def Taken (store : Store) : Operation → Prop
  | createDatabase catalog record _ =>
    ∃ id, LiveDatabase store catalog (.named (nameOf record.ident)) id
  | createTable catalog db record _ =>
    ∃ owner id, LiveTable store catalog db (.named (nameOf record.ident)) owner id
  | addPartition catalog db table record _ => LivePartition store catalog db table record.values
  | _ => False

end Operation

def Fails (result : Except Fault Outcome) (kind : Fault.Kind) : Prop :=
  match result with
  | .error fault => fault.kind = kind
  | .ok _ => False

instance (result : Except Fault Outcome) (kind : Fault.Kind) : Decidable (Fails result kind) :=
  match result with
  | .error fault => inferInstanceAs (Decidable (fault.kind = kind))
  | .ok _ => inferInstanceAs (Decidable False)

/-- The kind of failure is told by the request and the store. -/
structure Classified (options : StoreOptions) (store : Store) (operation : Operation) : Prop where
  malformed : Fails (operation.run options store).1 .invalidArgument ↔ operation.Malformed
  missing : Fails (operation.run options store).1 .notFound ↔
    ¬ operation.Malformed ∧ operation.Missing store
  taken : Fails (operation.run options store).1 .alreadyExists ↔
    ¬ operation.Malformed ∧ ¬ operation.Missing store ∧ operation.Taken store
  done : (∃ outcome, (operation.run options store).1 = .ok outcome) ↔
    ¬ operation.Malformed ∧ ¬ operation.Missing store ∧ ¬ operation.Taken store
  uncorrupted : ¬ Fails (operation.run options store).1 .corruption ∧
    ¬ Fails (operation.run options store).1 .internal
  uncreated : ∀ catalog listing, operation = .listDatabases catalog listing → catalog ≠ "" →
    store.hasRegion (Level.catalog catalog).root = false →
    (operation.run options store).1 = .ok (.databases [])

private theorem listDatabases_uncreated {options : StoreOptions}
    {store : Store} {catalog : String} (listing : DatabaseListing)
    (named : catalog ≠ "") (absent : store.hasRegion (Level.catalog catalog).root = false) :
    (Operation.run options store (.listDatabases catalog listing)).1 = .ok (.databases []) := by
  have passed : Request.requireCatalog catalog = .ok () := Request.requireCatalog_eq_ok.2 named
  have closed : openCatalog store catalog = .error (.absent ("catalog " ++ catalog)) := by
    simp only [openCatalog, absent]
    rfl
  have found : findDatabases store catalog listing = .ok [] := by
    simp only [findDatabases, passed, closed]
    rfl
  simp only [Operation.run, Operation.ask, found]
  rfl

namespace Judged

variable {malformed missing taken : Prop} {result : Except Fault Outcome}

theorem invalidArgument_iff (judged : Judged malformed missing taken result) :
    Fails result .invalidArgument ↔ malformed := by
  cases judged with
  | malformed kind so => exact ⟨fun _ => so, fun _ => kind⟩
  | missing kind formed => simp [Fails, kind, formed]
  | taken kind formed => simp [Fails, kind, formed]
  | done formed => simp [Fails, formed]

theorem notFound_iff (judged : Judged malformed missing taken result) :
    Fails result .notFound ↔ ¬ malformed ∧ missing := by
  cases judged with
  | malformed kind so => simp [Fails, kind, so]
  | missing kind formed so => exact ⟨fun _ => ⟨formed, so⟩, fun _ => kind⟩
  | taken kind _ there => simp [Fails, kind, there]
  | done _ there => simp [Fails, there]

theorem alreadyExists_iff (judged : Judged malformed missing taken result) :
    Fails result .alreadyExists ↔ ¬ malformed ∧ ¬ missing ∧ taken := by
  cases judged with
  | malformed kind so => simp [Fails, kind, so]
  | missing kind _ so => simp [Fails, kind, so]
  | taken kind formed there so => exact ⟨fun _ => ⟨formed, there, so⟩, fun _ => kind⟩
  | done _ _ free => simp [Fails, free]

theorem ok_iff (judged : Judged malformed missing taken result) :
    (∃ outcome, result = .ok outcome) ↔ ¬ malformed ∧ ¬ missing ∧ ¬ taken := by
  cases judged with
  | malformed _ so => simp [so]
  | missing _ _ so => simp [so]
  | taken _ _ _ so => simp [so]
  | done formed there free => exact ⟨fun _ => ⟨formed, there, free⟩, fun _ => ⟨_, rfl⟩⟩

theorem uncorrupted (judged : Judged malformed missing taken result) :
    ¬ Fails result .corruption ∧ ¬ Fails result .internal := by
  cases judged with
  | malformed kind | missing kind | taken kind => simp [Fails, kind]
  | done => exact ⟨id, id⟩

theorem classified {options : StoreOptions} {store : Store} {operation : Operation}
    (judged : Judged operation.Malformed (operation.Missing store)
        (operation.Taken store) (operation.run options store).1) :
    Classified options store operation where
  malformed := judged.invalidArgument_iff
  missing := judged.notFound_iff
  taken := judged.alreadyExists_iff
  done := judged.ok_iff
  uncorrupted := judged.uncorrupted
  uncreated _ listing same named absent := same ▸ listDatabases_uncreated listing named absent

end Judged

section Contents

variable {store : Store} {contents : Contents} {catalog : String} {db table : Ident}

section Levels

variable {ε ρ : Type} [Wire.Message ρ] [Node ε ρ] {level : Level}
  {index : Index ε} {valid : ε → Prop}

theorem Index.resolve_eq_ok {entity : Entity} {sought : Ident} {id : String} :
    index.resolve entity sought = .ok id ↔
    if sought.id = "" then index.id? sought.name = some id else id = sought.id := by
  unfold Index.resolve
  by_cases given : sought.id = ""
  · simp only [given, if_true]
    cases index.id? sought.name <;> simp
  · have some : sought.id.isEmpty = false := by simpa using given
    simp only [some, given, if_false, Bool.not_false, if_true, Except.ok.injEq]
    exact eq_comm

theorem Index.Sound.designates_iff (sound : index.Sound valid)
    (shows : Shows store level.root (index.layout level.inside))
    (short : level.Short) (readable : ∀ node, valid node → Wire.Readable (Node.record node))
    {ident : ρ → Option Ident} (same : ∀ node : ε, Node.ident node = ident (Node.record node))
    (entity : Entity) {sought : Ident} {id : String} :
    level.Designates store ident sought id ↔
    index.resolve entity sought = .ok id ∧ ∃ node, index.node? id = some node := by
  have row : store.get? level.byId (Bytes.ofText id) = (index.node? id).map fun node =>
    Wire.Message.encode (Node.record node) := shows.byId short _
  rw [Level.Designates, row, Index.resolve_eq_ok]
  cases held : index.node? id with
  | none => simp
  | some node =>
    have found := (readable node (sound.nodes _ _ held)).read?
    simp [found, ← same, sound.id?_iff held]

end Levels

namespace Holds

theorem liveDatabase_iff (holds : Holds store contents) (sound : contents.Sound)
    (short : Bytes.Short catalog) {id : String} :
    LiveDatabase store catalog db id ↔
    ∃ found, contents.database catalog db = .ok found ∧ found.id = id := by
  simp only [LiveDatabase, holds.hasCatalog_iff short, Contents.database_eq_ok]
  constructor
  · rintro ⟨⟨index, there⟩, designated⟩
    rw [(sound.indices _ _ there).designates_iff (holds.catalog there) (Level.catalog_short short)
        (fun _ valid => valid.record.readable) (fun _ => rfl) .database] at designated
    obtain ⟨resolved, node, held⟩ := designated
    exact ⟨⟨index, id, node⟩, ⟨there, resolved, held⟩, rfl⟩
  · rintro ⟨⟨index, _, node⟩, ⟨there, resolved, held⟩, rfl⟩
    refine ⟨⟨index, there⟩, ?_⟩
    rw [(sound.indices _ _ there).designates_iff (holds.catalog there)
        (Level.catalog_short short) (fun _ valid => valid.record.readable) (fun _ => rfl) .database]
    exact ⟨resolved, node, held⟩

theorem liveTable_iff (holds : Holds store contents) (sound : contents.Sound)
    (short : Bytes.Short catalog) (missing : Fault) {owner id : String} :
    LiveTable store catalog db table owner id ↔ ∃ found,
    contents.table catalog db table missing = .ok found ∧ found.db.id = owner ∧ found.id = id := by
  simp only [LiveTable, holds.liveDatabase_iff sound short, Contents.table_eq_ok]
  constructor
  · rintro ⟨⟨found, here, rfl⟩, designated⟩
    obtain ⟨there, index, stood, node⟩ := sound.database here
    have level := Level.database_short short (index.name_of_node stood).1
    rw [node.tables.designates_iff (holds.database there stood) level
        (fun _ valid => valid.record.readable) (fun _ => rfl) .table] at designated
    obtain ⟨resolved, inner, held⟩ := designated
    exact ⟨⟨found, id, inner⟩, ⟨here, resolved, held⟩, rfl, rfl⟩
  · rintro ⟨⟨found, _, inner⟩, ⟨here, resolved, held⟩, rfl, rfl⟩
    refine ⟨⟨found, here, rfl⟩, ?_⟩
    obtain ⟨there, index, stood, node⟩ := sound.database here
    have level := Level.database_short short (index.name_of_node stood).1
    rw [node.tables.designates_iff (holds.database there stood) level
        (fun _ valid => valid.record.readable) (fun _ => rfl) .table]
    exact ⟨resolved, inner, held⟩

theorem livePartition_iff (holds : Holds store contents) (sound : contents.Sound)
    (short : Bytes.Short catalog) (tableShort : table.Short) {values : List String} :
    LivePartition store catalog db table values ↔
      ∃ found, contents.scope catalog db table = .ok found ∧
      ((found.node.shelf.getD {}).rows.find? (Bytes.ofText (Request.joinValues values))).isSome =
        true := by
  have rows {found : Contents.FoundTable} (here : contents.scope catalog db table = .ok found) :
      (store.get? ((Level.database catalog found.db.id).child found.id)
        (Bytes.ofText (Request.joinValues values))).isSome =
        ((found.node.shelf.getD {}).rows.find?
          (Bytes.ofText (Request.joinValues values))).isSome := by
    obtain ⟨shows, region⟩ := holds.found_shelf sound short tableShort here
    rw [shows.shelf_row region, Option.isSome_map]
  constructor
  · rintro ⟨owner, id, live, held⟩
    obtain ⟨found, here, rfl, rfl⟩ := (holds.liveTable_iff sound short _).1 live
    exact ⟨found, here, rows here ▸ held⟩
  · rintro ⟨found, here, held⟩
    exact ⟨_, _, (holds.liveTable_iff sound short _).2 ⟨found, here, rfl, rfl⟩,
      (rows here).symm ▸ held⟩

/-- A database goes by its name in the index of its catalog, created or not. -/
theorem taken_database (holds : Holds store contents) (sound : contents.Sound)
    (short : Bytes.Short catalog) (name : String) :
    (((contents.find? catalog).getD {}).id? name).isSome = true ↔
    ∃ id, LiveDatabase store catalog (.named name) id := by
  simp only [holds.liveDatabase_iff sound short, Contents.database_eq_ok,
    Index.resolve_eq_ok, Ident.named, if_true]
  constructor
  · intro used
    cases there : contents.find? catalog with
    | none =>
      rw [there] at used
      cases used
    | some index =>
      rw [there] at used
      obtain ⟨id, listed⟩ := Option.isSome_iff_exists.1 used
      obtain ⟨node, held, -⟩ := (sound.indices _ _ there).node_of_name listed
      exact ⟨id, ⟨index, id, node⟩, ⟨rfl, listed, held⟩, rfl⟩
  · rintro ⟨_, found, ⟨there, listed, -⟩, -⟩
    rw [there]
    exact Option.isSome_iff_exists.2 ⟨_, listed⟩

theorem taken_table (holds : Holds store contents) (sound : contents.Sound)
    (short : Bytes.Short catalog) (name : String) {found : Contents.FoundDatabase}
    (here : contents.database catalog db = .ok found) :
    (found.node.tables.id? name).isSome = true ↔
    ∃ owner id, LiveTable store catalog db (.named name) owner id := by
  simp only [holds.liveTable_iff sound short (.absent ""), Contents.table_eq_ok,
    Index.resolve_eq_ok, Ident.named, if_true]
  obtain ⟨-, -, -, node⟩ := sound.database here
  constructor
  · intro used
    obtain ⟨id, listed⟩ := Option.isSome_iff_exists.1 used
    obtain ⟨inner, held, -⟩ := node.tables.node_of_name listed
    exact ⟨_, id, ⟨found, id, inner⟩, ⟨here, listed, held⟩, rfl, rfl⟩
  · rintro ⟨_, _, other, ⟨there, listed, -⟩, -⟩
    obtain rfl := Except.ok.inj (here.symm.trans there)
    exact Option.isSome_iff_exists.2 ⟨_, listed⟩

end Holds

/-- What an operation on a database must carry. -/
private theorem Judged.inDatabase {α : Type} {malformed missing taken : Prop}
    {next : Except Fault α} (lacks : catalog = "" ∨ db.Blank → malformed)
    (passed : ¬ (catalog = "" ∨ db.Blank) → Judged malformed missing taken next) :
    Judged malformed missing taken (Request.requireCatalog catalog >>= fun _ =>
      Request.requireIdent .database db >>= fun _ => next) := by
  refine .guard (fun _ refused => (Request.requireCatalog_error refused).imp_right fun empty =>
    lacks (.inl empty)) fun _ named => ?_
  refine .guard (fun _ refused => (Request.requireIdent_error refused).imp_right fun blank =>
    lacks (.inr blank)) fun _ owned => passed ?_
  rintro (empty | blank)
  · exact Request.requireCatalog_eq_ok.1 named empty
  · exact Request.requireIdent_eq_ok.1 owned blank

private theorem Judged.inTable {α : Type} {malformed missing taken : Prop} {next : Except Fault α}
    (lacks : catalog = "" ∨ db.Blank ∨ table.Blank → malformed)
    (passed : ¬ (catalog = "" ∨ db.Blank ∨ table.Blank) → Judged malformed missing taken next) :
    Judged malformed missing taken (Request.requireTable catalog db table >>= fun _ => next) := by
  refine .guard (fun _ refused => (Request.requireTable_error refused).imp_right lacks)
    fun _ named => passed ?_
  obtain ⟨some, owned, within⟩ := Request.requireTable_eq_ok.1 named
  rintro (empty | blank | blank)
  · exact some empty
  · exact owned blank
  · exact within blank

namespace Reached

variable {drawn : List String} {fault missing : Fault} {α : Type} {malformed taken : Prop}

private theorem findDatabase (reached : Reached store contents drawn) (short : Bytes.Short catalog)
    (formed : ¬ malformed) {next : Contents.FoundDatabase → Except Fault α}
    (passed : (∃ id, LiveDatabase store catalog db id) → ∀ found,
      contents.database catalog db = .ok found → Judged malformed
      (¬ ∃ id, LiveDatabase store catalog db id) taken (next found)) :
    Judged malformed (¬ ∃ id, LiveDatabase store catalog db id) taken
      (contents.database catalog db >>= next) := by
  have live (id : String) : LiveDatabase store catalog db id ↔
      ∃ found, contents.database catalog db = .ok found ∧ found.id = id :=
    reached.holds.liveDatabase_iff reached.sound short
  refine .find formed (fun fault failed => ⟨Contents.database_error failed, ?_⟩) fun found here =>
    passed ?_ found here
  · rintro ⟨id, there⟩
    obtain ⟨found, here, -⟩ := (live id).1 there
    rw [failed] at here
    cases here
  · exact ⟨found.id, (live found.id).2 ⟨found, here, rfl⟩⟩

private theorem findTable (reached : Reached store contents drawn)
    (short : Bytes.Short catalog) (kind : missing.kind = .notFound)
    (formed : ¬ malformed) {next : Contents.FoundTable → Except Fault α}
    (passed : (∃ owner id, LiveTable store catalog db table owner id) →
      ∀ found, contents.table catalog db table missing = .ok found →
      Judged malformed (¬ ∃ owner id, LiveTable store catalog db table owner id) taken
      (next found)) :
    Judged malformed (¬ ∃ owner id, LiveTable store catalog db table owner id) taken
      (contents.table catalog db table missing >>= next) := by
  have live (owner id : String) : LiveTable store catalog db table owner id ↔
      ∃ found, contents.table catalog db table missing = .ok found ∧
      found.db.id = owner ∧ found.id = id :=
    reached.holds.liveTable_iff reached.sound short missing
  refine .find formed (fun fault failed => ⟨Contents.table_error failed kind, ?_⟩) fun found here =>
    passed ?_ found here
  · rintro ⟨owner, id, there⟩
    obtain ⟨found, here, -⟩ := (live owner id).1 there
    rw [failed] at here
    cases here
  · exact ⟨found.db.id, found.id, (live found.db.id found.id).2 ⟨found, here, rfl, rfl⟩⟩

theorem livePartition_found (reached : Reached store contents drawn)
    (short : Bytes.Short catalog) (tableShort : table.Short) {found : Contents.FoundTable}
    (here : contents.scope catalog db table = .ok found) (values : List String) :
    LivePartition store catalog db table values ↔
      ((found.node.shelf.getD {}).rows.find? (Bytes.ofText (Request.joinValues values))).isSome =
        true := by
  rw [reached.holds.livePartition_iff reached.sound short tableShort]
  constructor
  · rintro ⟨other, there, held⟩
    obtain rfl := Except.ok.inj (here.symm.trans there)
    exact held
  · exact fun held => ⟨found, here, held⟩

private theorem livePartition_lost (reached : Reached store contents drawn)
    (short : Bytes.Short catalog) (tableShort : table.Short)
    (failed : contents.scope catalog db table = .error fault) (values : List String) :
    ¬ LivePartition store catalog db table values := by
  rw [reached.holds.livePartition_iff reached.sound short tableShort]
  rintro ⟨found, here, -⟩
  rw [failed] at here
  cases here

theorem judged_findDatabases (listing : DatabaseListing) :
    Judged (Operation.listDatabases catalog listing).Malformed
      ((Operation.listDatabases catalog listing).Missing store) False
      (contents.findDatabases catalog listing) :=
  .guard (fun _ refused => Request.requireCatalog_error refused) fun _ named =>
    .done (Request.requireCatalog_eq_ok.1 named) id id

variable (reached : Reached store contents drawn) (short : Bytes.Short catalog) {fresh : String}
include reached short

theorem judged_createDatabase (record : Database) :
    Judged (Operation.createDatabase catalog record fresh).Malformed
      ((Operation.createDatabase catalog record fresh).Missing store)
      ((Operation.createDatabase catalog record fresh).Taken store)
      (contents.createDatabase catalog record fresh) := by
  have used := reached.holds.taken_database reached.sound short (nameOf record.ident)
  refine .guard (fun _ refused => (Request.requireCatalog_error refused).imp_right .inl)
    fun _ some => ?_
  refine .guard (fun _ refused => (Request.requireName_error refused).imp_right .inr)
    fun name called => ?_
  obtain ⟨rfl, named⟩ := Request.requireName_eq_ok.1 called
  have formed : ¬ (catalog = "" ∨ nameOf record.ident = "") :=
    fun lacks => lacks.elim (Request.requireCatalog_eq_ok.1 some) named
  dsimp only
  split
  next taken => exact .taken rfl formed id (used.1 taken)
  next free => exact .done formed id (mt used.2 free)

theorem judged_getDatabase :
    Judged (Operation.getDatabase catalog db).Malformed
      ((Operation.getDatabase catalog db).Missing store) False (contents.getDatabase catalog db) :=
  .inDatabase id fun formed => reached.findDatabase short formed fun live _ _ =>
    .done formed (not_not_intro live) id

theorem judged_alterDatabase (changes : Database) :
    Judged (Operation.alterDatabase catalog db changes).Malformed
      ((Operation.alterDatabase catalog db changes).Missing store) False
      (contents.alterDatabase catalog db changes) :=
  .inDatabase id fun formed => reached.findDatabase short formed fun live _ _ =>
    .done formed (not_not_intro live) id

theorem judged_dropDatabase :
    Judged (Operation.dropDatabase catalog db).Malformed
      ((Operation.dropDatabase catalog db).Missing store) False
      (contents.dropDatabase catalog db) :=
  .inDatabase id fun formed => reached.findDatabase short formed fun live _ _ =>
    .done formed (not_not_intro live) id

theorem judged_findTables (shown : List String) :
    Judged (Operation.listTables catalog db shown).Malformed
      ((Operation.listTables catalog db shown).Missing store) False
      (contents.findTables catalog db shown) :=
  .inDatabase id fun formed => reached.findDatabase short formed fun live _ _ =>
    .done formed (not_not_intro live) id

theorem judged_createTable (record : Table) :
    Judged (Operation.createTable catalog db record fresh).Malformed
      ((Operation.createTable catalog db record fresh).Missing store)
      ((Operation.createTable catalog db record fresh).Taken store)
      (contents.createTable catalog db record fresh) := by
  refine .inDatabase (Or.imp_right .inl) fun owned => ?_
  refine .guard (fun _ refused => (Request.requireName_error refused).imp_right fun empty =>
    .inr (.inr empty)) fun name called => ?_
  obtain ⟨rfl, named⟩ := Request.requireName_eq_ok.1 called
  have formed : ¬ (catalog = "" ∨ db.Blank ∨ nameOf record.ident = "") := fun lacks =>
    (or_assoc.2 lacks).elim owned named
  refine reached.findDatabase short formed fun live found here => ?_
  have used := reached.holds.taken_table reached.sound short (nameOf record.ident) here
  dsimp only
  split
  next taken => exact .taken rfl formed (not_not_intro live) (used.1 taken)
  next free => exact .done formed (not_not_intro live) (mt used.2 free)

theorem judged_getTable :
    Judged (Operation.getTable catalog db table).Malformed
      ((Operation.getTable catalog db table).Missing store) False
      (contents.getTable catalog db table) :=
  .inTable id fun formed => reached.findTable short rfl formed fun live _ _ =>
    .done formed (not_not_intro live) id

theorem judged_dropTable :
    Judged (Operation.dropTable catalog db table).Malformed
      ((Operation.dropTable catalog db table).Missing store) False
      (contents.dropTable catalog db table) :=
  .inTable id fun formed => reached.findTable short rfl formed fun live _ _ =>
    .done formed (not_not_intro live) id

theorem judged_findPartitions (listing : PartitionListing) :
    Judged (Operation.listPartitions catalog db table listing).Malformed
      ((Operation.listPartitions catalog db table listing).Missing store) False
      (contents.findPartitions catalog db table listing) := by
  refine .inTable .inl fun owned => ?_
  refine .guard (fun _ refused => (Request.partitionKeys_error refused).imp_right .inr)
    fun keys joined => ?_
  have formed : ¬ ((catalog = "" ∨ db.Blank ∨ table.Blank) ∨
    ∃ values ∈ listing.filter, Request.joinValues values = "") := by
    rintro (lacks | ⟨values, held, empty⟩)
    · exact owned lacks
    · exact (Request.partitionKeys_ok joined).1 values held empty
  exact reached.findTable short rfl formed fun live _ _ => .done formed (not_not_intro live) id

theorem judged_addPartition (tableShort : table.Short) (fill : Bool) (record : Partition) :
    Judged (Operation.addPartition catalog db table record fresh).Malformed
      ((Operation.addPartition catalog db table record fresh).Missing store)
      ((Operation.addPartition catalog db table record fresh).Taken store)
      (contents.addPartition fill catalog db table record fresh) := by
  refine .inTable .inl fun owned => ?_
  refine .guard (fun _ refused => (Request.partitionKey_error refused).imp_right .inr)
    fun key joined => ?_
  obtain ⟨rfl, some⟩ := Request.partitionKey_eq_ok.1 joined
  have formed : ¬ ((catalog = "" ∨ db.Blank ∨ table.Blank) ∨
    Request.joinValues record.values = "") := fun lacks => lacks.elim owned some
  refine reached.findTable short rfl formed fun live found here => ?_
  have held := reached.livePartition_found short tableShort here record.values
  dsimp only
  split
  next taken => exact .taken rfl formed (not_not_intro live) (held.2 taken)
  next free => exact .done formed (not_not_intro live) (mt held.1 free)

theorem judged_getPartition (tableShort : table.Short) (values shown : List String) :
    Judged (Operation.getPartition catalog db table values shown).Malformed
      ((Operation.getPartition catalog db table values shown).Missing store) False
      (contents.getPartition catalog db table values shown) := by
  refine .inTable .inl fun owned => ?_
  refine .guard (fun _ refused => (Request.partitionKey_error refused).imp_right .inr)
    fun key joined => ?_
  obtain ⟨rfl, some⟩ := Request.partitionKey_eq_ok.1 joined
  have formed : ¬ ((catalog = "" ∨ db.Blank ∨ table.Blank) ∨ Request.joinValues values = "") :=
    fun lacks => lacks.elim owned some
  refine .find formed (fun fault failed => ⟨Contents.table_error failed rfl,
    reached.livePartition_lost short tableShort failed values⟩) fun found here => ?_
  have held := reached.livePartition_found short tableShort here values
  cases row : (found.node.shelf.getD {}).rows.find? (Bytes.ofText (Request.joinValues values)) with
  | none =>
    refine .missing rfl formed fun live => ?_
    rw [held, row] at live
    cases live
  | some record =>
    have live : LivePartition store catalog db table values := held.2 (by rw [row]; rfl)
    dsimp only
    split
    · exact .done formed (not_not_intro live) id
    · exact .done formed (not_not_intro live) id

theorem judged_dropPartitions (tableShort : table.Short) (tuples : List (List String)) :
    Judged (Operation.dropPartitions catalog db table tuples).Malformed
      ((Operation.dropPartitions catalog db table tuples).Missing store) False
      (contents.dropPartitions catalog db table tuples) := by
  refine .inTable .inl fun owned => ?_
  refine .guard (fun _ refused => (Request.partitionKeys_error refused).imp_right .inr)
    fun keys joined => ?_
  obtain ⟨some, members⟩ := Request.partitionKeys_ok joined
  have formed : ¬ ((catalog = "" ∨ db.Blank ∨ table.Blank) ∨
    ∃ values ∈ tuples, Request.joinValues values = "") := by
    rintro (lacks | ⟨values, held, empty⟩)
    · exact owned lacks
    · exact some values held empty
  split
  next none =>
    -- No keys, no tuples: there is nothing to find.
    refine .done formed ?_ id
    rintro ⟨values, held, -⟩
    have inside := (members _).2 ⟨values, held, rfl⟩
    rw [List.isEmpty_iff.1 none] at inside
    cases inside
  next several =>
    obtain ⟨first, rest, rfl⟩ := List.exists_cons_of_ne_nil (by simpa using several)
    obtain ⟨values, given, -⟩ := (members first).1 List.mem_cons_self
    refine .find formed (fun fault failed => ⟨Contents.table_error failed rfl, values, given, ?_⟩)
      fun found here => ?_
    · exact reached.livePartition_lost short tableShort failed values
    · have held := reached.livePartition_found short tableShort here
      dsimp only
      split
      next key lost =>
        obtain ⟨values, given, rfl⟩ := (members key).1 (List.mem_of_find?_eq_some lost)
        have absent := List.find?_some lost
        refine .missing rfl formed ⟨values, given, fun live => ?_⟩
        rw [held, Option.isSome_iff_ne_none] at live
        exact live (Option.isNone_iff_eq_none.1 absent)
      next present =>
        refine .done formed ?_ id
        rintro ⟨values, given, lost⟩
        have row := List.find?_eq_none.1 present _ ((members _).2 ⟨values, given, rfl⟩)
        exact lost ((held values).2 (by simpa [Option.isSome_iff_ne_none] using row))

theorem judged_dropPartition (tableShort : table.Short) (values : List String) :
    Judged (Operation.dropPartition catalog db table values).Malformed
      ((Operation.dropPartition catalog db table values).Missing store) False
      (contents.dropPartitions catalog db table [values]) := by
  have judged : Judged (Operation.dropPartitions catalog db table [values]).Malformed
    ((Operation.dropPartitions catalog db table [values]).Missing store) False
    (contents.dropPartitions catalog db table [values]) :=
    reached.judged_dropPartitions short tableShort [values]
  simp only [Operation.Malformed, Operation.Missing, List.mem_singleton, exists_eq_left] at judged ⊢
  exact judged

omit short in
/-- The result of an operation is told by the request and the store that it comes to. -/
theorem judged {operation : Operation} (short : operation.Short)
    (fresh : ∀ id, operation.fresh? = some id → id ∉ drawn) (options : StoreOptions) :
    Judged operation.Malformed (operation.Missing store) (operation.Taken store)
      (operation.run options store).1 := by
  rw [(reached.answer short fresh).1]
  cases operation with
  | createDatabase => exact (reached.judged_createDatabase short.1 _).change _
  | getDatabase => exact (reached.judged_getDatabase short.1).map _
  | listDatabases => exact (judged_findDatabases _).map _
  | alterDatabase => exact (reached.judged_alterDatabase short.1 _).change _
  | dropDatabase => exact (reached.judged_dropDatabase short.1).change _
  | createTable => exact (reached.judged_createTable short.1 _).change _
  | getTable => exact (reached.judged_getTable short.1).map _
  | listTables => exact (reached.judged_findTables short.1 _).map _
  | dropTable => exact (reached.judged_dropTable short.1).change _
  | addPartition => exact (reached.judged_addPartition short.1 short.2.2.1 _ _).change _
  | getPartition => exact (reached.judged_getPartition short.1 short.2.2 _ _).map _
  | listPartitions => exact (reached.judged_findPartitions short.1 _).map _
  | dropPartition => exact (reached.judged_dropPartition short.1 short.2.2 _).change _
  | dropPartitions => exact (reached.judged_dropPartitions short.1 short.2.2 _).change _

end Reached
end Contents

/-- Whatever operations came before, the next one fails only for its own reason. -/
theorem faults_classified (options : StoreOptions) (operations : List Operation)
    (operation : Operation) (admissible : Admissible (operations ++ [operation])) :
    Classified options (Operation.runAll options ∅ operations) operation := by
  obtain ⟨begun, short, fresh⟩ := admissible.before
  exact ((begun.reached options).judged short fresh options).classified

theorem faults_classified_remade :
    Classified {} (Operation.runAll {} ∅ remade)
      (.dropPartitions "main" { name := "sales" } { id := "T2" } [["2024", "02"], ["2024", "03"]]) ∧
    Fails (Operation.run {} (Operation.runAll {} ∅ remade)
      (.dropPartitions "main" { name := "sales" } { id := "T2" } [["2024", "02"],
        ["2024", "03"]])).1 .notFound :=
  ⟨faults_classified {} remade _ (by decide +kernel), by decide +kernel⟩

end TableCatalog
