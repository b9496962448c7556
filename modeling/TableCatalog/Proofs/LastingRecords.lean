import TableCatalog.Proofs.Addressing

/-! What was created stays readable until it is altered or dropped. A
run that spares an entity leaves it under every identity that led to
it, and what is read of it there is what its creation gave back. -/

namespace TableCatalog

open Region

namespace Operation

/-- The database that an operation is to alter. -/
def altered? : Operation → Option (String × Ident)
  | alterDatabase catalog db _ => some (catalog, db)
  | _ => none

def droppedDatabase? : Operation → Option (String × Ident)
  | dropDatabase catalog db => some (catalog, db)
  | _ => none

def droppedTable? : Operation → Option (String × Ident × Ident)
  | dropTable catalog db table => some (catalog, db, table)
  | _ => none

def Alters (store : Store) (catalog id : String) (operation : Operation) : Prop :=
  ∃ asked ∈ operation.altered?, asked.1 = catalog ∧ LiveDatabase store catalog asked.2 id

def DropsDatabase (store : Store) (catalog id : String) (operation : Operation) : Prop :=
  ∃ asked ∈ operation.droppedDatabase?, asked.1 = catalog ∧ LiveDatabase store catalog asked.2 id

def DropsTable (store : Store) (catalog owner id : String) (operation : Operation) : Prop :=
  ∃ asked ∈ operation.droppedTable?, asked.1 = catalog ∧
  LiveTable store catalog asked.2.1 asked.2.2 owner id

/-- One of the tuples has the key of the partition. -/
def DropsKey (store : Store) (catalog owner id key : String) (operation : Operation) : Prop :=
  ∃ asked ∈ operation.tuples?, asked.1 = catalog ∧
    LiveTable store catalog asked.2.1 asked.2.2.1 owner id ∧
    ∃ values ∈ asked.2.2.2, Request.joinValues values = key

def EndsDatabase (catalog id : String) (store : Store) (operation : Operation) : Prop :=
  operation.Alters store catalog id ∨ operation.DropsDatabase store catalog id

def EndsTable (catalog owner id : String) (store : Store) (operation : Operation) : Prop :=
  operation.DropsDatabase store catalog owner ∨ operation.DropsTable store catalog owner id

def EndsPartition (catalog owner id key : String) (store : Store) (operation : Operation) : Prop :=
  operation.EndsTable catalog owner id store ∨ operation.DropsKey store catalog owner id key

variable (store : Store) (catalog owner id key : String) (operation : Operation)

instance : Decidable (operation.EndsDatabase catalog id store) :=
  inferInstanceAs (Decidable ((∃ asked ∈ operation.altered?, _ ∧ _) ∨
    ∃ asked ∈ operation.droppedDatabase?, _ ∧ _))

instance : Decidable (operation.EndsTable catalog owner id store) :=
  inferInstanceAs (Decidable ((∃ asked ∈ operation.droppedDatabase?, _ ∧ _) ∨
    ∃ asked ∈ operation.droppedTable?, _ ∧ _))

instance : Decidable (operation.EndsPartition catalog owner id key store) :=
  inferInstanceAs (Decidable (_ ∨ ∃ asked ∈ operation.tuples?, _ ∧ _ ∧ ∃ values ∈ asked.2.2.2, _))

end Operation

/-- What these operations end, they do not end in this way: none that does so succeeds. -/
def Spares (options : StoreOptions) (ends : Store → Operation → Prop) (store : Store) :
    List Operation → Prop
  | [] => True
  | operation :: rest =>
    ((operation.run options store).1.isOk = true → ¬ ends store operation) ∧
    Spares options ends (operation.run options store).2 rest

instance decidableSpares (options : StoreOptions) (ends : Store → Operation → Prop)
    [∀ store operation, Decidable (ends store operation)] :
    ∀ (store : Store) (operations : List Operation),
    Decidable (Spares options ends store operations)
  | _, [] => .isTrue trivial
  | store, operation :: rest =>
    have := decidableSpares options ends (operation.run options store).2 rest
    inferInstanceAs (Decidable (_ ∧ _))

/-- A record that an operation creates in a store, and the
answers about it once more operations were run. -/
structure Lasting (options : StoreOptions) (store : Store) (create : Operation)
    (later : List Operation) : Prop where
  database : ∀ catalog record fresh outcome, create = .createDatabase catalog record fresh →
    (create.run options store).1 = .ok outcome →
    let made := { record with
      ident := some ⟨nameOf record.ident, fresh⟩, sequence :=
        (store.counter? (Level.catalog catalog).root).getD 0 + 1 }
    outcome = .database made ∧
    (Spares options (Operation.EndsDatabase catalog fresh) (create.run options store).2 later →
      ∀ db : Ident, db.Short → db.Calls (nameOf record.ident) fresh →
        (Operation.run options (Operation.runAll options store (create :: later))
          (.getDatabase catalog db)).1 = .ok (.database made))
  table : ∀ catalog db record fresh outcome, create = .createTable catalog db record fresh →
    (create.run options store).1 = .ok outcome →
    ∃ owner, LiveDatabase store catalog db owner ∧
    let made := { record with
      ident := some ⟨nameOf record.ident, fresh⟩, sequence :=
        (store.counter? (Level.database catalog owner).root).getD 0 + 1 }
    outcome = .table made ∧
    (Spares options (Operation.EndsTable catalog owner fresh) (create.run options store).2 later →
      ∀ db table : Ident, db.Short → ¬ db.Blank → LiveDatabase store catalog db owner →
      table.Short → table.Calls (nameOf record.ident) fresh →
        (Operation.run options (Operation.runAll options store (create :: later))
          (.getTable catalog db table)).1 = .ok (.table made))
  partition : ∀ catalog db table record fresh outcome, create =
      .addPartition catalog db table record fresh → (create.run options store).1 = .ok outcome →
    ∃ owner id, LiveTable store catalog db table owner id ∧
    let made := { record with
      table := none, id := fresh, sequence :=
        (store.counter? ((Level.database catalog owner).child id)).getD 0 + 1
      location := if options.fillLocation ∧ record.location = ""
        then (record.storage.map (·.location)).getD "" else record.location }
    outcome = .partition made ∧
    (Spares options (Operation.EndsPartition catalog owner id (Request.joinValues record.values))
        (create.run options store).2 later →
      ∀ db table : Ident, db.Short → ¬ db.Blank → table.Short →
      ¬ table.Blank → LiveTable store catalog db table owner id →
      ∀ values, Request.joinValues values = Request.joinValues record.values →
        let after := Operation.runAll options store (create :: later)
        ∃ attached, (Operation.run options after (.getTable catalog db table)).1 =
          .ok (.table attached) ∧
          (Operation.run options after (.getPartition catalog db table values [])).1 =
            .ok (.partition { made.fillLocation with table := some attached }) ∧
          ∀ shown, (Operation.run options after (.getPartition catalog db table values shown)).1 =
            .ok (.partition (Contents.shownPartition made attached shown)))

section Contents

variable {store : Store} {contents after : Contents} {drawn : List String} {options : StoreOptions}
  {catalog owner id : String} {db table : Ident} {operation : Operation} {outcome : Outcome}

namespace Reached

/-- What no step but those of one kind takes away is there after all operations that spare it. -/
theorem spared (reached : Reached store contents drawn)
    (keeps : Contents → Prop) {ends : Store → Operation → Prop}
    (step : ∀ {store contents drawn operation outcome after}, Reached store contents drawn →
      operation.Short →
      (∀ id, operation.fresh? = some id → ¬ contents.Uses id) →
      Contents.Step options contents operation outcome after → keeps contents →
      keeps after ∨ ends store operation) {operations : List Operation}
      (short : ∀ operation ∈ operations, operation.Short)
    (fresh : (drawn ++ operations.filterMap Operation.fresh?).Nodup)
    (spares : Spares options ends store operations) (held : keeps contents) :
    keeps (contents.runAll options operations) := by
  induction operations generalizing store contents drawn with
  | nil => exact held
  | cons operation rest ih =>
    rw [drawn_cons] at fresh
    have first := short operation List.mem_cons_self
    have unused := unused_of_nodup fresh
    have kept : keeps (contents.run options operation).2 := by
      cases ran : contents.run options operation with
      | mk result after =>
        cases result with
        | error fault => exact Contents.run_error ran ▸ held
        | ok outcome =>
          have succeeded : (operation.run options store).1.isOk = true := by
            rw [(reached.answer first unused).1, ran]
            rfl
          have spared := spares.1 succeeded
          exact (step reached first (fun id drew used => unused id drew (reached.drawn id used))
            (Contents.step_of_run ran) held).resolve_right spared
    exact ih (reached.run first unused)
      (fun other inside => short other (List.mem_cons_of_mem _ inside)) fresh spares.2 kept

end Reached

namespace Contents

/-- A database stands under its identity, with a table and,
if one is asked for, a partition of that table. -/
structure Stands (catalog owner id : String) (ident : Option Ident)
    (record : Table) (row : Option (String × Partition)) (contents : Contents) : Prop where
  named : ∃ inside, contents.database? catalog owner = some inside ∧ inside.record.ident = ident
  stood : ∃ node, contents.table? catalog owner id = some node ∧
    node.record = record ∧ ∀ held ∈ row, node.row? held.1 = some held.2

theorem Stands.step {ident : Option Ident} {record : Table} {row : Option (String × Partition)}
    (stands : contents.Stands catalog owner id ident record row)
    (step : Step options contents operation outcome after)
    (fresh : ∀ id, operation.fresh? = some id → ¬ contents.Uses id) :
    after.Stands catalog owner id ident record row ∨
    contents.DropsDatabase catalog owner operation ∨
      contents.DropsTable catalog owner id operation ∨
      ∃ held ∈ row, contents.DropsKey catalog owner id held.1 operation := by
  obtain ⟨⟨inside, owned, named⟩, node, stood, same, rows⟩ := stands
  obtain ⟨kept, there, called, -⟩ | dropped := step.database? fresh owned
  · obtain ⟨later, held, still, left⟩ | dropped | dropped := step.table? fresh stood
    · by_cases lost : ∃ held ∈ row, contents.DropsKey catalog owner id held.1 operation
      · exact .inr (.inr (.inr lost))
      · refine .inl ⟨⟨kept, there, called.trans named⟩, later,
          held, still.trans same, fun asked inside => ?_⟩
        exact (left _ _ (rows asked inside)).resolve_right fun dropped =>
          lost ⟨asked, inside, dropped⟩
    · exact .inr (.inl dropped)
    · exact .inr (.inr (.inl dropped))
  · exact .inr (.inl dropped)

namespace Sound

variable (sound : contents.Sound) (some : catalog ≠ "")
include sound some

theorem getDatabase {node : DatabaseNode} (stood : contents.database? catalog id = .some node)
    (formed : ¬ db.Blank) (calls : db.Calls (nameOf node.record.ident) id) :
    contents.getDatabase catalog db = .ok node.record := by
  obtain ⟨found, here, -, rfl⟩ := sound.database_iff.2 ⟨stood, calls⟩
  exact getDatabase_eq_ok.2 ⟨some, formed, found, here, rfl⟩

variable {inside : DatabaseNode} {node : TableNode}
  (owned : contents.database? catalog owner = .some inside)
  (formed : ¬ db.Blank) (calls : db.Calls (nameOf inside.record.ident) owner)
  (stood : contents.table? catalog owner id = .some node) (within : ¬ table.Blank)
  (called : table.Calls (nameOf node.record.ident) id)
include owned formed calls stood within called

theorem getTable : contents.getTable catalog db table = .ok node.record := by
  obtain ⟨found, here, -, -, rfl⟩ :=
    (sound.table_iff (.absent ("table " ++ table.text))).2 ⟨⟨owned, calls⟩, stood, called⟩
  exact getTable_eq_ok.2 ⟨⟨some, formed, within⟩, found, here, rfl⟩

theorem getPartition {values : List String} {record : Partition}
    (row : node.row? (Request.joinValues values) = .some record)
    (keyed : Request.joinValues values ≠ "") (shown : List String) :
    contents.getPartition catalog db table values shown =
      .ok (shownPartition record node.record shown) := by
  obtain ⟨found, (here : contents.scope catalog db table = .ok found), -, -, rfl⟩ :=
    (sound.table_iff _).2 ⟨⟨owned, calls⟩, stood, called⟩
  exact getPartition_eq_ok.2 ⟨⟨some, formed, within⟩, keyed, found, here, record, row, rfl⟩

end Sound

/-- Of what the caller gave, only the identity, the number and the table are replaced, and an empty
location if locations are filled. -/
theorem kept_filled (fill : Bool) (record : Partition) (fresh : String) (sequence : UInt64) :
    kept fill record fresh sequence = { record with
      table := none, id := fresh, sequence
      location := if fill ∧ record.location = "" then (record.storage.map (·.location)).getD ""
        else record.location } := by
  unfold kept Partition.fillLocation
  cases fill with
  | false => simp
  | true =>
    by_cases empty : record.location = ""
    · cases storage : record.storage <;> simp [empty]
    · simp [empty]

end Contents

theorem Operation.Short.of_tuples {tuples : List (List String)} (short : operation.Short)
    (asked : operation.tuples? = some (catalog, db, table, tuples)) :
    operation.fresh? = none ∧ Bytes.Short catalog ∧ table.Short := by
  cases operation with
  | dropPartition | dropPartitions =>
    cases asked
    exact ⟨rfl, short.1, short.2.2⟩
  | _ => cases asked

namespace Holds

variable (holds : Holds store contents) (sound : contents.Sound)
include holds sound

private theorem alters (short : operation.Short) (altered : contents.Alters catalog id operation) :
    operation.Alters store catalog id := by
  obtain ⟨db, changes, found, rfl, here, same⟩ := altered
  exact ⟨_, rfl, rfl, (holds.liveDatabase_iff sound short.1).2 ⟨found, here, same⟩⟩

private theorem dropsDatabase (short : operation.Short)
    (dropped : contents.DropsDatabase catalog id operation) :
    operation.DropsDatabase store catalog id := by
  obtain ⟨db, found, rfl, here, same⟩ := dropped
  exact ⟨_, rfl, rfl, (holds.liveDatabase_iff sound short.1).2 ⟨found, here, same⟩⟩

private theorem dropsTable (short : operation.Short)
    (dropped : contents.DropsTable catalog owner id operation) :
    operation.DropsTable store catalog owner id := by
  obtain ⟨db, table, missing, found, rfl, here, owned, same⟩ := dropped
  exact ⟨_, rfl, rfl, (holds.liveTable_iff sound short.1 missing).2 ⟨found, here, owned, same⟩⟩

private theorem dropsKey {key : String} (short : operation.Short)
    (dropped : contents.DropsKey catalog owner id key operation) :
    operation.DropsKey store catalog owner id key := by
  obtain ⟨db, table, tuples, found, asked, here, owned, same, values⟩ := dropped
  exact ⟨_, asked, rfl,
    (holds.liveTable_iff sound (short.of_tuples asked).2.1 _).2 ⟨found, here, owned, same⟩, values⟩

end Holds

theorem Holds.catalog_count (holds : Holds store contents) (short : Bytes.Short catalog) :
    (store.counter? (Level.catalog catalog).root).getD 0 =
      ((contents.find? catalog).getD {}).count := by
  have shows := holds.shows catalog
  have level := Level.catalog_short short
  cases there : contents.find? catalog with
  | none =>
    rw [Contents.layout, there] at shows
    have absent : store.counter? (Level.catalog catalog).root = none := (shows.here level.root).1
    rw [absent]
    rfl
  | some index =>
    rw [(holds.catalog there).count level]
    rfl

theorem Holds.tables_count (holds : Holds store contents) (sound : contents.Sound)
    (short : Bytes.Short catalog) {found : Contents.FoundDatabase}
    (here : contents.database catalog db = .ok found) :
    (store.counter? (Level.database catalog found.id).root).getD 0 = found.node.tables.count := by
  obtain ⟨there, index, held, -⟩ := sound.database here
  rw [(holds.database there held).count (Level.database_short short (index.name_of_node held).1)]
  rfl

theorem Holds.shelf_count (holds : Holds store contents) (sound : contents.Sound)
    (short : Bytes.Short catalog) (tableShort : table.Short) {missing : Fault}
    {found : Contents.FoundTable} (here : contents.table catalog db table missing = .ok found) :
    (store.counter? ((Level.database catalog found.db.id).child found.id)).getD 0 =
      (found.node.shelf.getD {}).count := by
  obtain ⟨shows, region⟩ := holds.found_shelf sound short tableShort here
  rw [shows.shelf_count region]
  cases found.node.shelf <;> rfl

namespace Contents

variable {fresh : String}

theorem database?_created {name : String} {made : Database} {index : Index DatabaseNode} :
    database? (contents.insert catalog (index.add name fresh { record := made })) catalog fresh =
      some { record := made } := by
  rw [database?_insert, if_pos rfl, Index.node?_add, if_pos rfl]

theorem table?_created {name : String} {made : Table} {found : FoundDatabase}
    (here : contents.database catalog db = .ok found) :
    (contents.setTables catalog found (found.node.tables.add name fresh { record := made })).table?
      catalog found.id fresh = some { record := made } := by
  rw [setTables, table?_setDatabase here, if_pos ⟨rfl, rfl⟩, Index.node?_add, if_pos rfl]

theorem stands_table {name : String} {made : Table} {found : FoundDatabase}
    (here : contents.database catalog db = .ok found) :
    (contents.setTables catalog found (found.node.tables.add name fresh { record := made })).Stands
      catalog found.id fresh found.node.record.ident made none where
  named := ⟨_, (database?_setDatabase here _).trans (if_pos ⟨rfl, rfl⟩), rfl⟩
  stood := ⟨{ record := made }, table?_created here, rfl, fun _ impossible => nomatch impossible⟩

theorem stands_partition {key : String} {made : Partition} {missing : Fault}
    {found : FoundTable} {count : UInt64} {rows : SortedMap Bytes Partition}
    (here : contents.table catalog db table missing = .ok found) :
    (contents.setShelf catalog found ⟨count, rows.insert (Bytes.ofText key) made⟩).Stands catalog
      found.db.id found.id found.db.node.record.ident found.node.record (some (key, made)) where
  named := ⟨_, (database?_setDatabase (table_eq_ok.1 here).1 _).trans (if_pos ⟨rfl, rfl⟩), rfl⟩
  stood := by
    refine ⟨_, (table?_setShelf here _).trans (if_pos ⟨rfl, rfl, rfl⟩), rfl, fun _ held => ?_⟩
    cases held
    rw [TableNode.row?, Option.getD_some, SortedMap.find?_insert, if_pos rfl]

end Contents

namespace Reached

variable {later : List Operation} (reached : Reached store contents drawn)
  (short : ∀ operation ∈ later, operation.Short)
  (fresh : (drawn ++ later.filterMap Operation.fresh?).Nodup)
include reached

include short fresh

private theorem keeps_database {made : Database}
    (spares : Spares options (Operation.EndsDatabase catalog id) store later)
    (stood : ∃ node, contents.database? catalog id = some node ∧ node.record = made) :
    ∃ node, (contents.runAll options later).database? catalog id = some node ∧
    node.record = made := by
  refine reached.spared (fun contents => ∃ node, contents.database? catalog id = some node ∧
    node.record = made) ?_ short fresh spares stood
  rintro store contents drawn operation outcome after reached short fresh step ⟨node, there, rfl⟩
  obtain ⟨later, held, -, same | altered⟩ | dropped := step.database? fresh there
  · exact .inl ⟨later, held, same⟩
  · exact .inr (.inl (reached.holds.alters reached.sound short altered))
  · exact .inr (.inr (reached.holds.dropsDatabase reached.sound short dropped))

private theorem keeps_table {ident : Option Ident} {record : Table}
    {row : Option (String × Partition)} {ends : Store → Operation → Prop}
    (stands : contents.Stands catalog owner id ident record row)
    (outer : ∀ store operation, operation.EndsTable catalog owner id store → ends store operation)
    (inner : ∀ held ∈ row, ∀ store operation, operation.DropsKey store catalog owner id held.1 →
      ends store operation) (spares : Spares options ends store later) :
    (contents.runAll options later).Stands catalog owner id ident record row := by
  refine reached.spared
    (Contents.Stands catalog owner id ident record row) ?_ short fresh spares stands
  intro store contents drawn operation outcome after reached short fresh step stands
  obtain kept | dropped | dropped | ⟨held, asked, dropped⟩ := stands.step step fresh
  · exact .inl kept
  · exact .inr (outer _ _ (.inl (reached.holds.dropsDatabase reached.sound short dropped)))
  · exact .inr (outer _ _ (.inr (reached.holds.dropsTable reached.sound short dropped)))
  · exact .inr (inner held asked _ _ (reached.holds.dropsKey reached.sound short dropped))

end Reached

/-! What is read of what stands. -/

namespace Reached

variable (reached : Reached store contents drawn) (some : catalog ≠ "")
  (catalogShort : Bytes.Short catalog) (dbShort : db.Short)
include reached some catalogShort dbShort

private theorem reads_database {node : DatabaseNode}
    (stood : contents.database? catalog id = .some node)
    (formed : ¬ db.Blank) (calls : db.Calls (nameOf node.record.ident) id) :
    (Operation.run options store (.getDatabase catalog db)).1 = .ok (.database node.record) := by
  rw [reached.answer_quiet (.getDatabase catalog db) ⟨catalogShort, dbShort⟩ rfl]
  exact congrArg (Except.map Outcome.database) (reached.sound.getDatabase some stood formed calls)

variable {ident : Option Ident} {record : Table} {row : Option (String × Partition)}
  (stands : contents.Stands catalog owner id ident record row)
  (formed : ¬ db.Blank) (calls : db.Calls (nameOf ident) owner) (tableShort : table.Short)
  (within : ¬ table.Blank) (called : table.Calls (nameOf record.ident) id)
include stands formed calls tableShort within called

private theorem reads_table :
    (Operation.run options store (.getTable catalog db table)).1 = .ok (.table record) := by
  obtain ⟨⟨inside, owned, rfl⟩, node, stood, rfl, -⟩ := stands
  rw [reached.answer_quiet (.getTable catalog db table) ⟨catalogShort, dbShort, tableShort⟩ rfl]
  exact congrArg (Except.map Outcome.table)
    (reached.sound.getTable some owned formed calls stood within called)

private theorem reads_partition (options : StoreOptions) {values : List String}
    {partition : Partition} (asked : row = .some (Request.joinValues values, partition))
    (keyed : Request.joinValues values ≠ "") (shown : List String) :
    (Operation.run options store (.getPartition catalog db table values shown)).1 =
      .ok (.partition (Contents.shownPartition partition record shown)) := by
  obtain ⟨⟨inside, owned, rfl⟩, node, stood, rfl, rows⟩ := stands
  rw [reached.answer_quiet (.getPartition catalog db table values shown)
      ⟨catalogShort, dbShort, tableShort⟩ rfl]
  exact congrArg (Except.map Outcome.partition) (reached.sound.getPartition
    some owned formed calls stood within called (rows _ asked) keyed shown)

end Reached

namespace Reached

variable (reached : Reached store contents drawn) {create : Operation} {later : List Operation}
  (begun : create.Short) (unused : ∀ id, create.fresh? = some id → id ∉ drawn)
  (short : ∀ operation ∈ later, operation.Short)
  (fresh : ((drawn ++ create.fresh?.toList) ++ later.filterMap Operation.fresh?).Nodup)
include reached begun unused short fresh

private theorem created (succeeded : (create.run options store).1 = .ok outcome) :
    ∃ after, contents.run options create = (.ok outcome, after) ∧
      Reached (create.run options store).2 after (drawn ++ create.fresh?.toList) ∧
      Reached (Operation.runAll options store (create :: later)) (after.runAll options later)
        ((drawn ++ create.fresh?.toList) ++ later.filterMap Operation.fresh?) := by
  obtain ⟨after, ran, next⟩ := reached.retrace begun unused succeeded
  exact ⟨after, ran, next, next.runAll short fresh⟩

/-- What is created in a store that a run can reach lasts. -/
theorem lasting : Lasting options store create later where
  database catalog record given outcome same succeeded := by
    obtain ⟨after, ran, next, final⟩ := reached.created begun unused short fresh succeeded
    subst same
    obtain ⟨made, done, rfl⟩ := Contents.change_eq_ok.1 ran
    obtain ⟨some, named, -, same, rfl⟩ := Contents.createDatabase_eq_ok.1 done
    rw [← reached.holds.catalog_count begun.1] at same
    subst same
    refine ⟨rfl, fun spares db dbShort calls => ?_⟩
    obtain ⟨node, stood, same⟩ :=
      next.keeps_database short fresh spares ⟨_, Contents.database?_created, rfl⟩
    rw [final.reads_database some begun.1 dbShort stood (calls.not_blank named)
        (by rw [same]; exact calls), same]
  table catalog db record given outcome same succeeded := by
    obtain ⟨after, ran, next, final⟩ := reached.created begun unused short fresh succeeded
    subst same
    obtain ⟨made, done, rfl⟩ := Contents.change_eq_ok.1 ran
    obtain ⟨⟨some, -⟩, named, found, here, -, same, rfl⟩ := Contents.createTable_eq_ok.1 done
    rw [← reached.holds.tables_count reached.sound begun.1 here] at same
    subst same
    refine ⟨found.id, (reached.holds.liveDatabase_iff reached.sound begun.1).2 ⟨found, here, rfl⟩,
      rfl, ?_⟩
    intro spares db table dbShort formed live tableShort called
    obtain ⟨inside, owned, calls⟩ :=
      (reached.holds.liveDatabase_iff_calls reached.sound begun.1).1 live
    obtain rfl := Option.some.inj (owned.symm.trans (Contents.database?_of_database here))
    have stands := next.keeps_table short fresh (Contents.stands_table here)
      (fun _ _ ended => ended) (fun _ impossible => nomatch impossible) spares
    exact final.reads_table some begun.1 dbShort stands formed calls tableShort
      (called.not_blank named) called
  partition catalog db table record given outcome same succeeded := by
    obtain ⟨after, ran, next, final⟩ := reached.created begun unused short fresh succeeded
    subst same
    obtain ⟨made, done, rfl⟩ := Contents.change_eq_ok.1 ran
    obtain ⟨⟨some, -⟩, keyed, found, here, -, same, rfl⟩ := Contents.addPartition_eq_ok.1 done
    rw [← reached.holds.shelf_count reached.sound begun.1 begun.2.2.1 here,
      Contents.kept_filled] at same
    subst same
    refine ⟨found.db.id, found.id,
      (reached.holds.liveTable_iff reached.sound begun.1 _).2 ⟨found, here, rfl, rfl⟩, rfl, ?_⟩
    intro spares db table dbShort formed tableShort within live values same
    obtain ⟨⟨inside, owned, calls⟩, node, stood, called⟩ :=
      (reached.holds.liveTable_iff_calls reached.sound begun.1).1 live
    obtain rfl := Option.some.inj
      (owned.symm.trans (Contents.database?_of_database (Contents.table_eq_ok.1 here).1))
    obtain rfl := Option.some.inj (stood.symm.trans (Contents.table?_of_table here))
    have stands := next.keeps_table short fresh (Contents.stands_partition here) (fun _ _ => .inl)
      (fun held asked _ _ dropped => .inr (by cases asked; exact dropped)) spares
    rw [← same] at keyed
    have reads := final.reads_partition some begun.1 dbShort
      stands formed calls tableShort within called options (by rw [same]) keyed
    exact ⟨_, final.reads_table some begun.1 dbShort stands formed calls tableShort within called,
      reads [], reads⟩

end Reached

end Contents

theorem records_last (options : StoreOptions) (before later : List Operation) (create : Operation)
    (admissible : Admissible (before ++ create :: later)) :
    Lasting options (Operation.runAll options ∅ before) create later := by
  obtain ⟨begun, short, unused⟩ := admissible.before
  have fresh := admissible.fresh
  rw [List.filterMap_append, drawn_cons] at fresh
  exact (begun.reached options).lasting short unused
    (fun operation held => admissible.short operation (by simp [held])) fresh

/-- A partition without a location, with what the caller has no say in. -/
def january : Partition :=
  { values := ["2024", "01"], storage := some { location := "/sales/01" },
    id := "mine", sequence := 9, table := some {} }

/-- Much happens around that partition: its database is altered, its
neighbours are dropped, and so is a database of the same name elsewhere.
The last drop asks for a partition that is missing, and fails. -/
def busy : List Operation :=
  let sales : Ident := { name := "sales" }
  let orders : Ident := { name := "orders" }
  [.alterDatabase "main" sales { location := "/new" },
    .addPartition "main" sales orders { values := ["2024", "02"] } "P2",
    .dropPartition "main" { id := "D1" } orders ["2024", "02"],
    .dropTable "main" sales { id := "T2" }, .createDatabase "other" { ident := some sales } "D2",
    .dropDatabase "other" sales,
    .dropPartitions "main" sales orders [["2024", "01"], ["2024", "03"]]]

theorem records_last_busy :
    let begun : List Operation :=
      [.createDatabase "main" { ident := some { name := "sales" } } "D1",
      .createTable "main" { name := "sales" } { ident := some { name := "orders" } } "T1",
      .createTable "main" { name := "sales" } { ident := some { name := "returns" } } "T2"]
    let add : Operation := .addPartition "main" { id := "D1" } { name := "orders" } january "P1"
    let store := Operation.runAll { fillLocation := true } ∅ begun
    Lasting { fillLocation := true } store add busy ∧
    (add.run { fillLocation := true } store).1 = .ok (.partition { january with
      location := "/sales/01", id := "P1", sequence := 1, table := none }) ∧
    Spares { fillLocation := true } (Operation.EndsPartition "main" "D1" "T1" "2024/01")
      (add.run { fillLocation := true } store).2 busy :=
  ⟨records_last _ _ busy _ (by decide +kernel), by decide +kernel, by decide +kernel⟩

end TableCatalog
