import TableCatalog.Proofs.CascadingDrops
import TableCatalog.Proofs.ContentsPlaces
import TableCatalog.Proofs.Listings

/-! An alter of a database changes one row of the store, that of its record, and no other. The
parameters become those of the changes, the location and the system parameters only if the changes
have any, and the rest of the record stays. So all lookups and listings, and whatever lies in the
database, are as they were but for that record, and two alters come to one. -/

namespace TableCatalog

open Region

/-- The changes, with what they leave out taken from earlier ones. -/
def Database.completing (changes earlier : Database) : Database :=
  { changes with
    systemParams := if changes.systemParams.isEmpty then earlier.systemParams
      else changes.systemParams
    location := if changes.location.isEmpty then earlier.location else changes.location }

/-- The store that an alter leaves. -/
def altered (options : StoreOptions) (store : Store) (catalog : String)
    (db : Ident) (changes : Database) : Store :=
  (Operation.run options store (.alterDatabase catalog db changes)).2

/-- Is about what lies in a database, and draws no identifier. -/
def Operation.Beneath (operation : Operation) : Prop :=
  operation.fresh? = none ∧
  (operation.table?.isSome ∨ ∃ catalog db shown, operation = .listTables catalog db shown)

/-- What an alter does to the database with this identifier and record. -/
structure AltersOne (options : StoreOptions) (store : Store) (catalog : String)
    (db : Ident) (changes : Database) (id : String) (record : Database) : Prop where
  ident : record.ident = some ⟨nameOf record.ident, id⟩
  called : db.Calls (nameOf record.ident) id
  found : (Operation.run options store (.getDatabase catalog db)).1 = .ok (.database record)
  answered : (Operation.run options store (.alterDatabase catalog db changes)).1 =
    .ok (.database { record with
    params := changes.params
    systemParams := if changes.systemParams.isEmpty then record.systemParams
      else changes.systemParams
    location := if changes.location.isEmpty then record.location else changes.location })
  entries : ∀ key, (altered options store catalog db changes).entries.find? key =
    if key = (Level.catalog catalog).byId.entryKey (Bytes.ofText id)
      then some (Wire.Message.encode (record.alter changes))
    else store.entries.find? key
  regions : (altered options store catalog db changes).regions = store.regions
  looked : ∀ sought : Ident, sought.Short → sought.Calls (nameOf record.ident) id →
    (Operation.run options (altered options store catalog db changes)
      (.getDatabase catalog sought)).1 = .ok (.database (record.alter changes))
  listed : ∃ earlier later, ∀ listing,
    databasesListed store catalog listing = (earlier ++ record :: later).map listing.apply ∧
    databasesListed (altered options store catalog db changes) catalog listing =
      (earlier ++ record.alter changes :: later).map listing.apply
  beneath : ∀ operation : Operation, operation.Short → operation.Beneath →
    (operation.run options (altered options store catalog db changes)).1 =
      (operation.run options store).1
  again : ∀ sought : Ident, sought.Calls (nameOf record.ident) id → ∀ next,
    Operation.run options (altered options store catalog db changes)
        (.alterDatabase catalog sought next) =
      Operation.run options store (.alterDatabase catalog db (next.completing changes))
  twice : Operation.run options (altered options store catalog db changes)
      (.alterDatabase catalog db changes) =
    Operation.run options store (.alterDatabase catalog db changes)

namespace Database

variable (record changes earlier : Database)

theorem alter_alter :
    (record.alter earlier).alter changes = record.alter (changes.completing earlier) := by
  simp only [alter, completing, mk.injEq, true_and, and_true]
  constructor
  · split <;> simp only [*]
  · split <;> simp only [*]

theorem completing_self : changes.completing changes = changes := by
  simp only [completing, ite_self]

end Database

theorem Index.find_put {ε : Type} {index : Index ε} {id : String}
    {node : ε} (held : index.node? id = some node) (later : ε)
    (entity : Entity) (sought : Ident) (missing : Fault) :
    (index.put id later).find entity sought missing =
      (index.find entity sought missing).map fun located =>
        (located.1, if located.1 = id then later else located.2) := by
  have resolved : (index.put id later).resolve entity sought = index.resolve entity sought := rfl
  simp only [find, resolved]
  cases index.resolve entity sought with
  | error fault => rfl
  | ok other =>
    simp only [bind, Except.bind, node?_put]
    by_cases same : other = id
    · rw [if_pos same, same, held]
      simp only [pure, Except.pure, Except.map, if_true]
    · rw [if_neg same]
      cases index.node? other with
      | none => rfl
      | some kept => simp only [pure, Except.pure, Except.map, if_neg same]

section Contents

variable {store : Store} {contents : Contents} {options : StoreOptions}
  {catalog id : String} {db : Ident} {found : Contents.FoundDatabase}

namespace Contents

/-- A database with its record altered. -/
def FoundDatabase.altered (found : FoundDatabase) (changes : Database) : DatabaseNode :=
  { found.node with record := found.node.record.alter changes }

@[simp] theorem FoundDatabase.altered_record (found : FoundDatabase) (changes : Database) :
    (found.altered changes).record = found.node.record.alter changes := rfl

@[simp] theorem FoundDatabase.altered_tables (found : FoundDatabase) (changes : Database) :
    (found.altered changes).tables = found.node.tables := rfl

/-- What lies in the databases is there whatever their records say. -/
theorem tables_setDatabase (here : contents.database catalog db = .ok found) {node : DatabaseNode}
    (same : node.tables = found.node.tables) (other : String) (sought : Ident) :
    ((contents.setDatabase catalog found node).database other sought).map (·.node.tables) =
      (contents.database other sought).map (·.node.tables) := by
  obtain ⟨there, -, held⟩ := database_eq_ok.1 here
  by_cases apart : other = catalog
  · subst apart
    simp only [database, Contents.catalog, setDatabase, SortedMap.find?_insert,
      if_true, there, bind, Except.bind, Index.find_put held]
    cases located : found.index.find .database sought (.absent ("database " ++ sought.text)) with
    | error fault => rfl
    | ok pair =>
      simp only [Except.map, pure, Except.pure, Except.ok.injEq]
      split
      next equal =>
        have kept : found.index.node? pair.1 = some pair.2 := (Index.find_eq_ok.1 located).2
        rw [equal, held] at kept
        rw [same, Option.some.inj kept]
      next => rfl
  · simp only [database, Contents.catalog, setDatabase, SortedMap.find?_insert, if_neg apart]

/-- In a listing, one record gives way to another in its place. -/
theorem records_setDatabase (here : contents.database catalog db = .ok found)
    (node : DatabaseNode) :
    ∃ earlier later, ((contents.find? catalog).getD {}).entries.toList.map (·.2.record) =
        earlier ++ found.node.record :: later ∧
      (((contents.setDatabase catalog found node).find? catalog).getD {}).entries.toList.map
        (·.2.record) = earlier ++ node.record :: later := by
  obtain ⟨there, -, held⟩ := database_eq_ok.1 here
  have after : (contents.setDatabase catalog found node).find? catalog =
      some (found.index.put found.id node) :=
    (SortedMap.find?_insert ..).trans (if_pos rfl)
  obtain ⟨earlier, later, rows, replaced⟩ := SortedMap.toList_insert_of_find? held
  refine ⟨earlier.map (·.2.record), later.map (·.2.record), ?_, ?_⟩
  · rw [there, Option.getD_some, rows, List.map_append, List.map_cons]
  · rw [after, Option.getD_some, Index.put, replaced, List.map_append, List.map_cons]

theorem workTable_tables (missing : Fault) (work : Work TableNode)
    (contents : Contents) (catalog : String) (db table : Ident) :
    (contents.workTable catalog db table missing work).1 =
      (contents.database catalog db).map (·.node.tables) >>= fun tables =>
        tables.find .table table missing >>= fun located => (work located.2).map (·.1) := by
  unfold workTable Contents.table
  cases contents.database catalog db with
  | error fault => rfl
  | ok found =>
    simp only [Except.map, bind, Except.bind]
    cases found.node.tables.find .table table missing with
    | error fault => rfl
    | ok located =>
      simp only [pure, Except.pure]
      cases work located.2 <;> rfl

end Contents

/-- The answers to some operations can be told from the tables alone of one database. -/
theorem Operation.Beneath.answer {operation : Operation} (beneath : operation.Beneath)
    (options : StoreOptions) :
    ∃ catalog db, ∃ answer : Except Fault (Index TableNode) → Except Fault Outcome,
      ∀ contents : Contents, (contents.run options operation).1 =
        answer ((contents.database catalog db).map (·.node.tables)) := by
  obtain ⟨-, asked | ⟨catalog, db, shown, rfl⟩⟩ := beneath
  · obtain ⟨⟨catalog, db, table⟩, asked⟩ := Option.isSome_iff_exists.1 asked
    refine ⟨catalog, db, ?_⟩
    obtain ⟨result, answers⟩ | ⟨missing, work, runs⟩ := Operation.atTable options asked
    · exact ⟨fun _ => result, fun contents => congrArg Prod.fst (answers contents)⟩
    · refine ⟨fun tables => tables >>= fun tables =>
        tables.find .table table missing >>= fun located => (work located.2).map (·.1), ?_⟩
      intro contents
      rw [runs, Contents.workTable_tables]
  · let answer (tables : Except Fault (Index TableNode)) : Except Fault (List Table) := do
      Request.requireCatalog catalog
      Request.requireIdent .database db
      return (← tables).entries.toList.map fun row => Projectable.project row.2.record shown []
    refine ⟨catalog, db, fun tables => (answer tables).map Outcome.tables, ?_⟩
    intro contents
    simp only [Contents.run, Contents.findTables, answer]
    cases Request.requireCatalog catalog with
    | error fault => rfl
    | ok =>
      cases Request.requireIdent .database db with
      | error fault => rfl
      | ok =>
        simp only [bind, Except.bind]
        cases contents.database catalog db <;> rfl

/-- An alter writes one row. -/
theorem Holds.alterDatabase_eq (holds : Holds store contents)
    (sound : contents.Sound) (short : Bytes.Short catalog) (some : catalog ≠ "")
    (formed : ¬ db.Blank) (here : contents.database catalog db = .ok found) (changes : Database) :
    Operation.run options store (.alterDatabase catalog db changes) =
      (.ok (.database (found.node.record.alter changes)),
      store.put (Level.catalog catalog).byId (Bytes.ofText found.id)
        (Wire.Message.encode (found.node.record.alter changes))) := by
  have named : Request.requireCatalog catalog = .ok () := Request.requireCatalog_eq_ok.2 some
  have given : Request.requireIdent .database db = .ok () := Request.requireIdent_eq_ok.2 formed
  obtain ⟨opened, read⟩ := holds.reads_found sound short here
  apply Operation.change_ok
  simp only [TableCatalog.alterDatabase, named, given, Update.read,
    bind, StateT.bind, Except.bind, get, getThe, MonadStateOf.get, StateT.get, liftM,
    monadLift, MonadLift.monadLift, StateT.lift, pure, Except.pure, opened, read]
  rfl

theorem Region.Store.put_put (store : Store) (path : Path) (key value later : Bytes) :
    (store.put path key value).put path key later = store.put path key later := by
  simp only [Store.put, SortedMap.insert_insert]

namespace Reached

variable {drawn : List String} {changes : Database} (reached : Reached store contents drawn)
  (short : (Operation.alterDatabase catalog db changes).Short) (some : catalog ≠ "")
  (formed : ¬ db.Blank) (here : contents.database catalog db = .ok found)
include reached short some formed here

/-- An alter leaves the contents with the record of one database changed. -/
theorem after_alter (options : StoreOptions) :
    (Operation.run options store (.alterDatabase catalog db changes)).1 =
      .ok (.database (found.node.record.alter changes)) ∧
    Reached (altered options store catalog db changes)
      (contents.setDatabase catalog found (found.altered changes)) drawn := by
  have ran : contents.run options (.alterDatabase catalog db changes) =
      (.ok (.database (found.altered changes).record),
        contents.setDatabase catalog found (found.altered changes)) :=
    Contents.change_eq_ok.2
      ⟨_, Contents.alterDatabase_eq_ok.2 ⟨some, formed, found, here, rfl, rfl⟩, rfl⟩
  obtain ⟨answered, next⟩ :=
    reached.follow options short (fun _ impossible => nomatch impossible) ran
  exact ⟨answered, drawn.append_nil ▸ next⟩

/-- A second alter, by whatever calls the database, does
what one alter of the database as it was would do. -/
theorem alter_again (options : StoreOptions) (named : nameOf found.node.record.ident ≠ "")
    {sought : Ident} (calls : sought.Calls (nameOf found.node.record.ident) found.id)
    (later : Database) :
    Operation.run options (altered options store catalog db changes)
        (.alterDatabase catalog sought later) =
      Operation.run options store (.alterDatabase catalog db (later.completing changes)) := by
  have next := (reached.after_alter short some formed here options).2
  have stood := (Contents.database?_setDatabase here (found.altered changes)).trans
    (if_pos ⟨rfl, rfl⟩)
  have runs (changes : Database) :
      Operation.run options store (.alterDatabase catalog db changes) = _ :=
    reached.holds.alterDatabase_eq reached.sound short.1 some formed here changes
  obtain ⟨placed, located, same, also⟩ := next.sound.database_iff.2 ⟨stood, calls⟩
  have left : altered options store catalog db changes = _ := congrArg Prod.snd (runs changes)
  rw [next.holds.alterDatabase_eq next.sound short.1 some (calls.not_blank named) located, same,
    also, left, runs, Region.Store.put_put, Contents.FoundDatabase.altered_record,
    Database.alter_alter]

/-- The altered record is listed in the place of the earlier one. -/
theorem listed_altered (options : StoreOptions) :
    ∃ earlier later, ∀ listing,
      databasesListed store catalog listing =
        (earlier ++ found.node.record :: later).map listing.apply ∧
      databasesListed (altered options store catalog db changes) catalog listing =
        (earlier ++ found.node.record.alter changes :: later).map listing.apply := by
  have next := (reached.after_alter short some formed here options).2
  obtain ⟨earlier, later, records, replaced⟩ :=
    Contents.records_setDatabase here (found.altered changes)
  rw [Contents.FoundDatabase.altered_record] at replaced
  refine ⟨earlier, later, fun listing => ⟨?_, ?_⟩⟩
  · rw [reached.holds.databasesListed reached.sound short.1 (fun _ _ => some),
      ← records, List.map_map]
    rfl
  · rw [next.holds.databasesListed next.sound short.1 (fun _ _ => some),
      ← replaced, List.map_map]
    rfl

theorem alters_one (named : nameOf found.node.record.ident ≠ "") (options : StoreOptions) :
    AltersOne options store catalog db changes found.id found.node.record := by
  obtain ⟨answered, next⟩ := reached.after_alter short some formed here options
  obtain ⟨there, index, held, -⟩ := reached.sound.database here
  obtain ⟨-, calls⟩ := reached.sound.database_iff.1 ⟨found, here, rfl, rfl⟩
  have stood := (Contents.database?_setDatabase here (found.altered changes)).trans
    (if_pos ⟨rfl, rfl⟩)
  have left : altered options store catalog db changes = _ := congrArg Prod.snd
    (reached.holds.alterDatabase_eq reached.sound short.1 some formed here changes)
  constructor
  case ident =>
    obtain ⟨-, name, (identified : found.node.record.ident = _), -⟩ := index.name_of_node held
    rw [identified]
    rfl
  case called => exact calls
  case found =>
    rw [reached.answer_quiet (.getDatabase catalog db) ⟨short.1, short.2.1⟩ rfl]
    exact congrArg (Except.map Outcome.database)
      (Contents.getDatabase_eq_ok.2 ⟨some, formed, found, here, rfl⟩)
  case answered => exact answered
  case entries =>
    intro key
    rw [left]
    exact SortedMap.find?_insert ..
  case regions => rw [left, Store.put]
  case looked =>
    intro sought soughtShort calls
    rw [next.answer_quiet (.getDatabase catalog sought) ⟨short.1, soughtShort⟩ rfl]
    exact congrArg (Except.map Outcome.database)
      (next.sound.getDatabase some stood (calls.not_blank named) calls)
  case listed => exact reached.listed_altered short some formed here options
  case beneath =>
    intro operation operationShort beneath
    obtain ⟨other, parent, answer, answers⟩ := beneath.answer options
    rw [next.answer_quiet operation operationShort beneath.1,
      reached.answer_quiet operation operationShort beneath.1, answers, answers,
      Contents.tables_setDatabase here (found.altered_tables changes)]
  case again =>
    intro sought calls later
    exact reached.alter_again short some formed here options named calls later
  case twice =>
    rw [reached.alter_again short some formed here options named calls changes,
      Database.completing_self]

end Reached

end Contents

theorem alter_changes_one_record (options : StoreOptions) (before : List Operation)
    (catalog : String) (db : Ident) (changes : Database) (id : String)
    (admissible : Admissible (before ++ [.alterDatabase catalog db changes]))
    (live : LiveDatabase (Operation.runAll options ∅ before) catalog db id) :
    ∃ record, AltersOne options
      (Operation.runAll options ∅ before) catalog db changes id record := by
  obtain ⟨begun, short, -⟩ := admissible.before
  have reached := begun.reached options
  have founded := begun.founded options
  obtain ⟨found, here, rfl⟩ := (reached.holds.liveDatabase_iff reached.sound short.1).1 live
  have some := founded.catalogs _ _ (Contents.database_eq_ok.1 here).1
  have named := (founded.databases _ _ _ (Contents.database?_of_database here)).1
  obtain ⟨-, calls⟩ := reached.sound.database_iff.1 ⟨found, here, rfl, rfl⟩
  have formed := calls.not_blank named
  exact ⟨found.node.record, reached.alters_one short some formed here named options⟩

/-- By an identifier, with a name beside it that is not the
database's, and with nothing but parameters to change. -/
theorem alter_changes_one_record_stocked :
    let store := Operation.runAll {} ∅ stocked
    let changes : Database :=
      { params := .ofList [("owner", "ops")], ident := some ⟨"sale", "D"⟩, sequence := 9 }
    LiveDatabase store "main" { name := "sale", id := "D1" } "D1" ∧
    ∃ record, AltersOne {} store "main" { name := "sale", id := "D1" } changes "D1" record := by
  have live : LiveDatabase
    (Operation.runAll {} ∅ stocked) "main" { name := "sale", id := "D1" } "D1" := by decide +kernel
  exact ⟨live, alter_changes_one_record {} stocked "main" _ _ "D1" (by decide +kernel) live⟩

end TableCatalog
