import TableCatalog.Proofs.ContentsQuestions
import TableCatalog.Proofs.PartitionDrops

/-! Operations on a store do to its contents what the operations on contents do, answer the same,
and fail with the same fault. A run over the store can thus be followed on its contents alone. -/

namespace TableCatalog

open Region

variable {store : Store} {contents : Contents} {catalog : String}
  {db table : Ident} {fresh : String} {α β γ : Type}

/-- The update and the change of contents fail alike, or answer
alike and lead to a store that holds the changed contents. -/
def Refines (store : Store) (work : Update α) (spec : Except Fault (α × Contents)) : Prop :=
  (∃ fault, work store = .error fault ∧ spec = .error fault) ∨
  ∃ result next after, work store = .ok (result, next) ∧ spec = .ok (result, after) ∧
  Holds next after

namespace Refines

theorem guard {check : Except Fault β} {work : β → Update α}
    {spec : β → Except Fault (α × Contents)}
    (passed : ∀ value, check = .ok value → Refines store (work value) (spec value)) :
    Refines store (liftM check >>= work) (check >>= spec) := by
  cases found : check with
  | error fault => exact .inl ⟨fault, rfl, rfl⟩
  | ok value => exact passed value found

/-- The update looks up in the store what the contents tell. -/
theorem read {lookup : Store → Except Fault β}
    {found : Except Fault γ} {wrap : γ → β} {work : β → Update α}
    {spec : γ → Except Fault (α × Contents)} (same : lookup store = found.map wrap)
    (passed : ∀ value, found = .ok value → Refines store (work (wrap value)) (spec value)) :
    Refines store (Update.read lookup >>= work) (found >>= spec) := by
  have seen : (Update.read lookup >>= work) store =
      (lookup store >>= fun value => work value store) := by
    simp only [Update.read, bind, StateT.bind, get, getThe, MonadStateOf.get,
      StateT.get, liftM, monadLift,
      MonadLift.monadLift, StateT.lift, pure, Except.pure, Except.bind]
    cases lookup store <;> rfl
  rw [Refines, seen, same]
  cases held : found with
  | error fault => exact .inl ⟨fault, rfl, rfl⟩
  | ok value => exact passed value held

theorem step {change : Update β} {work : β → Update α} {spec : Except Fault (α × Contents)}
    {value : β} {next : Store} (done : change store = .ok (value, next))
    (rest : Refines next (work value) spec) : Refines store (change >>= work) spec := by
  have same : (change >>= work) store = work value next := by
    simp only [bind, StateT.bind, Except.bind, done]
  rw [Refines, same]
  exact rest

theorem fail {change : Update β} {work : β → Update α} {fault : Fault}
    (failed : change store = .error fault) :
    Refines store (change >>= work) (.error fault : Except Fault (α × Contents)) := by
  refine .inl ⟨fault, ?_, rfl⟩
  simp only [bind, StateT.bind, Except.bind, failed]

theorem number {path : Path} {work : UInt64 → Update α} {spec : Except Fault (α × Contents)}
    {count : UInt64} (counted : store.counter? path = some count)
    (rest : Refines (store.setCounter path (count + 1)) (work (count + 1)) spec) :
    Refines store (Update.nextSequence path >>= work) spec := by
  refine .step ?_ rest
  rw [Update.nextSequence, Store.nextSequence_eq, counted]

theorem free {present : Store → Bool} {used : Bool} {fault : Fault}
    {work : Update α} {spec : Except Fault (α × Contents)} (same : present store = used)
    (rest : used = false → Refines store work spec) :
    Refines store
      (do
        if present (← get) then throw fault
        work)
      (do
        if used then throw fault
        spec) := by
  have seen :
      (do
        if present (← get) then throw fault
        work : Update α) store = if used then .error fault else work store := by
    rw [← same]
    simp only [bind, StateT.bind, get, getThe, MonadStateOf.get,
      StateT.get, pure, Except.pure, Except.bind]
    cases present store <;> rfl
  rw [Refines, seen]
  cases taken : used with
  | true => exact .inl ⟨fault, rfl, rfl⟩
  | false => exact rest taken

theorem readDatabase {work : Level → String × Database → Update α}
    {spec : Contents.FoundDatabase → Except Fault (α × Contents)}
    (holds : Holds store contents) (sound : contents.Sound) (short : Bytes.Short catalog)
    (passed : ∀ found, contents.database catalog db = .ok found →
      Refines store (work (Level.catalog catalog) (found.id, found.node.record)) (spec found)) :
    Refines store (Update.read (fun store => openCatalog store catalog) >>= fun level =>
      Update.read (fun store => readEntity (α := Database) store level .database db) >>=
        work level) (contents.database catalog db >>= spec) := by
  rw [Contents.database, bind_assoc]
  refine .read (holds.openCatalog short) fun index found => ?_
  rw [bind_assoc]
  refine .read (holds.readDatabase sound short (Contents.catalog_eq_ok.1 found)) fun located held =>
    ?_
  obtain ⟨id, node⟩ := located
  refine passed ⟨index, id, node⟩ ?_
  simp only [Contents.database, found, held, bind, Except.bind]
  rfl

theorem readTable {work : Level → String × Table → Update α}
    {spec : Contents.FoundTable → Except Fault (α × Contents)} (holds : Holds store contents)
    (sound : contents.Sound) (short : Bytes.Short catalog) (dbShort : db.Short)
    (passed : ∀ found,
      contents.table catalog db table (.absent ("table " ++ table.text)) = .ok found →
      Refines store (work (Level.database catalog found.db.id) (found.id, found.node.record))
        (spec found)) :
    Refines store (Update.read (fun store => openDatabase store catalog db) >>= fun level =>
      Update.read (fun store => readEntity (α := Table) store level .table table) >>= work level)
      (contents.table catalog db table (.absent ("table " ++ table.text)) >>= spec) := by
  rw [Contents.table, bind_assoc]
  refine .read (holds.openDatabase sound short dbShort) fun found here => ?_
  rw [bind_assoc]
  refine .read (holds.readTable sound short here) fun located held => ?_
  obtain ⟨id, node⟩ := located
  refine passed ⟨found, id, node⟩ ?_
  simp only [Contents.table, here, held, bind, Except.bind]
  rfl

end Refines

namespace Holds

variable {store after : Store}

theorem setDatabase (holds : Holds store contents) (sound : contents.Sound)
    (short : Bytes.Short catalog) {found : Contents.FoundDatabase}
    (here : contents.database catalog db = .ok found) {tables : Index TableNode}
    (changed : ChangesWithin (Level.database catalog found.id).root store after)
    (shows : Shows after (Level.database catalog found.id).root
        (tables.layout (Level.database catalog found.id).inside)) :
    Holds after (contents.setTables catalog found tables) := by
  obtain ⟨there, -, stood, -⟩ := sound.database here
  have level := Level.catalog_short short
  exact holds.insert (changed.widen ((Level.catalog catalog).child_within found.id))
    ((holds.catalog there).put_child level stood changed shows rfl)

theorem setShelf (holds : Holds store contents) (sound : contents.Sound)
    (short : Bytes.Short catalog) {missing : Fault} {found : Contents.FoundTable}
    (here : contents.table catalog db table missing = .ok found) {shelf : Shelf}
    (changed : ChangesWithin ((Level.database catalog found.db.id).child found.id) store after)
    (shows : Shows after ((Level.database catalog found.db.id).child found.id)
        (Shelf.layout (some shelf))) :
    Holds after (contents.setShelf catalog found shelf) := by
  obtain ⟨here, stood, -⟩ := sound.table here
  obtain ⟨there, index, held, -⟩ := sound.database here
  have level := Level.database_short short (index.name_of_node held).1
  refine holds.setDatabase sound short here
    (changed.widen ((Level.database catalog found.db.id).child_within found.id)) ?_
  exact (holds.database there held).put_child level stood changed shows rfl

theorem alterDatabase (holds : Holds store contents) (sound : contents.Sound)
    (short : Bytes.Short catalog) (changes : Database) :
    Refines store (alterDatabase catalog db changes)
      (contents.alterDatabase catalog db changes) := by
  refine .guard fun _ _ => .guard fun _ _ => .readDatabase holds sound short fun found here =>
    .inr ⟨_, _, _, rfl, rfl, ?_⟩
  obtain ⟨there, -, stood, -⟩ := sound.database here
  have level := Level.catalog_short short
  let node : DatabaseNode := { found.node with record := found.node.record.alter changes }
  exact holds.insert (level.changes_record _)
    ((holds.catalog there).put_record level stood node rfl)

theorem dropDatabase (holds : Holds store contents) (sound : contents.Sound)
    (short : Bytes.Short catalog) :
    Refines store (dropDatabase catalog db) (contents.dropDatabase catalog db) := by
  refine .guard fun _ _ => .guard fun _ _ => .readDatabase holds sound short fun found here =>
    .inr ⟨_, _, _, rfl, rfl, ?_⟩
  obtain ⟨there, index, stood, -⟩ := sound.database here
  have level := Level.catalog_short short
  have idShort := (index.name_of_node stood).1
  exact holds.insert (level.changes_remove (nameOf found.node.record.ident) idShort)
    ((holds.catalog there).remove level (nameOf found.node.record.ident) idShort)

theorem dropTable (holds : Holds store contents) (sound : contents.Sound)
    (short : Bytes.Short catalog) (dbShort : db.Short) :
    Refines store (dropTable catalog db table) (contents.dropTable catalog db table) := by
  refine .guard fun _ _ => .readTable holds sound short dbShort fun found here =>
    .inr ⟨_, _, _, rfl, rfl, ?_⟩
  obtain ⟨here, stood, -⟩ := sound.table here
  obtain ⟨there, index, held, node⟩ := sound.database here
  have level := Level.database_short short (index.name_of_node held).1
  have idShort := (node.tables.name_of_node stood).1
  exact holds.setDatabase sound short here
    (level.changes_remove (nameOf found.node.record.ident) idShort)
    ((holds.database there held).remove level (nameOf found.node.record.ident) idShort)

theorem createTable (holds : Holds store contents) (sound : contents.Sound)
    (short : Bytes.Short catalog) (dbShort : db.Short) (record : Table)
    (unused : ¬ contents.Uses fresh) :
    Refines store (createTable catalog db record fresh)
      (contents.createTable catalog db record fresh) := by
  refine .guard fun _ _ => .guard fun _ _ => .guard fun name _ =>
    .read (holds.openDatabase sound short dbShort) fun found here => ?_
  obtain ⟨there, index, held, node⟩ := sound.database here
  have level := Level.database_short short (index.name_of_node held).1
  have shows := holds.database there held
  have taken : (store.get? (Level.database catalog found.id).byName (Bytes.ofText name)).isSome =
      (found.node.tables.id? name).isSome := by
    rw [shows.byName level, Option.isSome_map]
    rfl
  have free : found.node.tables.node? fresh = none :=
    Option.eq_none_iff_forall_ne_some.2 fun other there' =>
    unused ⟨_, _, there, .inr ⟨_, _, held, other, there'⟩⟩
  have inner : Shows store ((Level.database catalog found.id).child fresh) (Shelf.layout none) :=
    Shelf.layout_none ▸ shows.child_nothing free
  refine .free taken fun _ =>
    .step rfl (.number (shows.count level) (.step rfl (.inr ⟨_, _, _, rfl, rfl, ?_⟩)))
  let kept : Table :=
    { record with ident := some ⟨name, fresh⟩, sequence := found.node.tables.count + 1 }
  exact holds.setDatabase sound short here (level.changes_add name
    (.refl _ store) (found.node.tables.count + 1) (Wire.Message.encode kept))
    (shows.add level name ⟨kept, none⟩ (.refl _ store) inner)

/-- The catalog comes into being with its first database. -/
theorem createDatabase (holds : Holds store contents) (short : Bytes.Short catalog)
    (freshShort : Bytes.Short fresh) (record : Database) (unused : ¬ contents.Uses fresh) :
    Refines store (createDatabase catalog record fresh)
      (contents.createDatabase catalog record fresh) := by
  have level := Level.catalog_short short
  have inside := Level.database_short short freshShort
  have shows : Shows (createAll store (Level.catalog catalog).regions) (Level.catalog catalog).root
      (((contents.find? catalog).getD {}).layout (Level.catalog catalog).inside) :=
    Shows.create (contents.find? catalog) (holds.shows catalog) level
  have opened := changesWithin_createAll store level.regions (Level.catalog catalog).regions_within
  have free : ((contents.find? catalog).getD {}).node? fresh = none :=
    Option.eq_none_iff_forall_ne_some.2 fun node there =>
    unused (Contents.uses_of_opened (.inl ⟨node, there⟩))
  have grown := changesWithin_createAll (createAll store (Level.catalog catalog).regions)
    inside.regions (Level.database catalog fresh).regions_within
  have inner := Shows.create (none : Option (Index TableNode)) (shows.child_nothing free) inside
  refine .guard fun _ _ => .guard fun name _ =>
    .step (Level.create_eq _ _) (.free ?taken fun _ => ?_)
  case taken =>
    rw [shows.byName level, Option.isSome_map]
    rfl
  refine .step (Level.create_eq _ _)
    (.step rfl (.number ?count (.step rfl (.inr ⟨_, _, _, rfl, rfl, ?_⟩))))
  case count =>
    rw [Store.counter?_put,
      grown.counter _ level.root ((Level.catalog catalog).root_not_within_child fresh)]
    exact shows.count level
  let kept : Database := { record with
    ident := some ⟨name, fresh⟩, sequence := ((contents.find? catalog).getD {}).count + 1 }
  exact holds.insert (opened.trans (level.changes_add name grown _ (Wire.Message.encode kept)))
    (shows.add level name ⟨kept, {}⟩ grown inner)

/-- The shelf comes into being with its first partition. -/
theorem addPartition (holds : Holds store contents) (sound : contents.Sound)
    (short : Bytes.Short catalog) (dbShort : db.Short) (tableShort : table.Short)
    (fill : Bool) (record : Partition) :
    Refines store (addPartition fill catalog db table record fresh)
      (contents.addPartition fill catalog db table record fresh) := by
  refine .guard fun _ _ => .guard fun key _ =>
    .read (holds.openTable sound short dbShort) fun found here => ?_
  obtain ⟨shows, region⟩ := holds.found_shelf sound short tableShort here
  refine .step rfl (.free ?taken fun _ => .number ?count (.step rfl (.inr ⟨_, _, _, rfl, rfl, ?_⟩)))
  case taken =>
    rw [TableRef.partitions, Store.get?_createRegion, shows.shelf_row region, Option.isSome_map]
  case count =>
    rw [TableRef.partitions, Store.counter?_createRegion region region,
      shows.shelf_count region, if_pos rfl]
    cases found.node.shelf <;> rfl
  exact holds.setShelf sound short here (changesWithin_shelf_add store region _ _ _)
    (shows.shelf_add region (Bytes.ofText key) _)

theorem dropPartitions (holds : Holds store contents) (sound : contents.Sound)
    (short : Bytes.Short catalog) (dbShort : db.Short) (tableShort : table.Short)
    (tuples : List (List String)) :
    Refines store (dropPartitions catalog db table tuples)
      (contents.dropPartitions catalog db table tuples) := by
  refine .guard fun _ _ => .guard fun keys joined => ?_
  cases empty : keys.isEmpty with
  | true =>
    simp only [if_true]
    exact .inr ⟨_, _, _, rfl, rfl, holds⟩
  | false =>
    simp only [Bool.false_eq_true, if_false]
    refine .read (holds.openTable sound short dbShort) fun found here => ?_
    obtain ⟨shows, region⟩ := holds.found_shelf sound short tableShort here
    have dropped :=
      dropKeys_eq (store.hasRegion ((Level.database catalog found.db.id).child found.id))
        ((Level.database catalog found.db.id).child found.id)
        (fun key => .absent (partitionText db table key)) (Request.nodup_partitionKeys joined) store
    have missing (key : String) :
        (!(store.hasRegion ((Level.database catalog found.db.id).child found.id) &&
        (store.get? ((Level.database catalog found.db.id).child found.id)
          (Bytes.ofText key)).isSome)) =
        ((found.node.shelf.getD {}).rows.find? (Bytes.ofText key)).isNone := by
      rw [Store.hasRegion_eq, shows.shelf_count region, shows.shelf_row region,
        Option.isSome_map, Option.isSome_map]
      cases found.node.shelf with
      | none => rfl
      | some shelf => cases shelf.rows.find? (Bytes.ofText key) <;> simp
    simp only [missing] at dropped
    refine .step rfl ?_
    cases lost : keys.find? fun key =>
      ((found.node.shelf.getD {}).rows.find? (Bytes.ofText key)).isNone with
    | some key =>
      rw [lost] at dropped
      exact .fail dropped
    | none =>
      rw [lost] at dropped
      refine .step dropped (.inr ⟨_, _, _, rfl, rfl, ?_⟩)
      cases opened : found.node.shelf with
      | none =>
        obtain ⟨key, rest, rfl⟩ := List.exists_cons_of_ne_nil (by simpa using empty)
        have held := List.find?_eq_none.1 lost key List.mem_cons_self
        rw [opened] at held
        exact absurd rfl held
      | some shelf =>
        rw [opened] at shows
        exact holds.setShelf sound short here (changesWithin_deleteAll store _ region)
          (shows.shelf_drop region (keys.map Bytes.ofText))

end Holds

/-- A store that a run can reach, its contents, and the identifiers drawn on the way. -/
structure Reached (store : Store) (contents : Contents) (drawn : List String) : Prop where
  holds : Holds store contents
  sound : contents.Sound
  drawn : ∀ id, contents.Uses id → id ∈ drawn

/-- The requests of a run carry short texts, and no identifier is drawn twice. -/
structure Admissible (operations : List Operation) : Prop where
  short : ∀ operation ∈ operations, operation.Short
  fresh : (operations.filterMap Operation.fresh?).Nodup

instance (operations : List Operation) : Decidable (Admissible operations) :=
  decidable_of_iff ((∀ operation ∈ operations, operation.Short) ∧
    (operations.filterMap Operation.fresh?).Nodup) ⟨fun ⟨short, fresh⟩ => ⟨short, fresh⟩,
      fun ⟨short, fresh⟩ => ⟨short, fresh⟩⟩

def Contents.runAll (options : StoreOptions) (contents : Contents)
    (operations : List Operation) : Contents :=
  operations.foldl (fun contents operation => (contents.run options operation).2) contents

theorem Operation.change_ok {after : Store} {wrap : α → Outcome}
    {work : Update α} {result : α} (done : work store = .ok (result, after)) :
    Operation.change store wrap work = (.ok (wrap result), after) := by
  rw [Operation.change, Store.update, done]
  rfl

theorem Operation.change_error {wrap : α → Outcome} {work : Update α}
    {fault : Fault} (failed : work store = .error fault) :
    Operation.change store wrap work = (.error fault, store) := by
  rw [Operation.change, Store.update, failed]
  rfl

theorem Refines.update {work : Update α} {spec : Except Fault (α × Contents)}
    (refines : Refines store work spec) (holds : Holds store contents) (wrap : α → Outcome) :
    (Operation.change store wrap work).1 = (contents.change wrap spec).1 ∧
    Holds (Operation.change store wrap work).2 (contents.change wrap spec).2 := by
  obtain ⟨fault, failed, refused⟩ | ⟨result, next, after, done, changed, kept⟩ := refines
  · rw [Operation.change_error failed, refused, Contents.change]
    exact ⟨rfl, holds⟩
  · rw [Operation.change_ok done, changed, Contents.change]
    exact ⟨rfl, kept⟩

/-- An outcome that tells nothing of the result is that of the update without its result. -/
private theorem change_forget (store : Store) (work : Update α) (outcome : Outcome) :
    Operation.change store (fun _ : Unit => outcome) (do let _ ← work) =
      Operation.change store (fun _ => outcome) work := by
  simp only [Operation.change, Store.update, bind, StateT.bind, Except.bind]
  cases work store <;> rfl

namespace Reached

variable {drawn : List String} {options : StoreOptions}

theorem empty : Reached ∅ ∅ [] where
  holds := .empty
  sound := .empty
  drawn _ used := by
    obtain ⟨_, _, impossible, -⟩ := used
    cases impossible

/-- An operation answers as it does over the contents, and changes both alike. -/
theorem answer (reached : Reached store contents drawn) {operation : Operation}
    (short : operation.Short) (fresh : ∀ id, operation.fresh? = some id → id ∉ drawn) :
    (operation.run options store).1 = (contents.run options operation).1 ∧
    Holds (operation.run options store).2 (contents.run options operation).2 := by
  obtain ⟨holds, sound, used⟩ := reached
  cases operation with
  | createDatabase catalog record id =>
    exact (holds.createDatabase short.1 short.2.2 record fun here =>
      fresh id rfl (used id here)).update holds _
  | getDatabase => exact ⟨congrArg (Except.map _) (holds.getDatabase sound short.1), holds⟩
  | listDatabases => exact ⟨congrArg (Except.map _) (holds.findDatabases sound short _), holds⟩
  | alterDatabase => exact (holds.alterDatabase sound short.1 _).update holds _
  | dropDatabase => exact (holds.dropDatabase sound short.1).update holds _
  | createTable catalog db record id =>
    exact (holds.createTable sound short.1 short.2.1 record fun here =>
      fresh id rfl (used id here)).update holds _
  | getTable => exact ⟨congrArg (Except.map _) (holds.getTable sound short.1 short.2.1), holds⟩
  | listTables => exact ⟨congrArg (Except.map _) (holds.findTables sound short.1 short.2 _), holds⟩
  | dropTable => exact (holds.dropTable sound short.1 short.2.1).update holds _
  | addPartition =>
    exact (holds.addPartition sound short.1 short.2.1 short.2.2.1 _ _).update holds _
  | getPartition =>
    exact ⟨congrArg (Except.map _) (holds.getPartition sound short.1 short.2.1 short.2.2 _ _),
      holds⟩
  | listPartitions =>
    exact ⟨congrArg (Except.map _) (holds.findPartitions sound short.1 short.2.1 short.2.2 _),
      holds⟩
  | dropPartition catalog db table values =>
    have drop := (holds.dropPartitions sound short.1 short.2.1 short.2.2 [values]).update holds
      fun _ => .done
    rwa [← change_forget] at drop
  | dropPartitions =>
    exact (holds.dropPartitions sound short.1 short.2.1 short.2.2 _).update holds _

/-- An operation that draws no identifier answers as it does
over the contents, whatever was drawn before. -/
theorem answer_quiet (reached : Reached store contents drawn)
    (operation : Operation) (short : operation.Short) (quiet : operation.fresh? = none) :
    (operation.run options store).1 = (contents.run options operation).1 :=
  (reached.answer short fun _ drew => nomatch quiet.symm.trans drew).1

theorem run (reached : Reached store contents drawn) {operation : Operation}
    (short : operation.Short) (fresh : ∀ id, operation.fresh? = some id → id ∉ drawn) :
    Reached (operation.run options store).2 (contents.run options operation).2
      (drawn ++ operation.fresh?.toList) := by
  refine ⟨(reached.answer short fresh).2, ?_, ?_⟩
  all_goals
    cases ran : contents.run options operation with
    | mk result after => ?_
  · cases result with
    | error fault => exact Contents.run_error ran ▸ reached.sound
    | ok outcome =>
      exact reached.sound.step (Contents.step_of_run ran) short fun id drawn used =>
        fresh id drawn (reached.drawn id used)
  · intro id used
    cases result with
    | error fault => exact List.mem_append_left _ (reached.drawn id (Contents.run_error ran ▸ used))
    | ok outcome =>
      rcases used.of_step (Contents.step_of_run ran) with used | drawn
      · exact List.mem_append_left _ (reached.drawn id used)
      · exact List.mem_append_right _ (by simp [drawn])

/-- What an operation does over the contents, it does in the store. -/
theorem follow (reached : Reached store contents drawn)
    (options : StoreOptions) {operation : Operation} (short : operation.Short)
    (fresh : ∀ id, operation.fresh? = some id → id ∉ drawn) {result : Except Fault Outcome}
    {after : Contents} (ran : contents.run options operation = (result, after)) :
    (operation.run options store).1 = result ∧
    Reached (operation.run options store).2 after (drawn ++ operation.fresh?.toList) := by
  have next : Reached (operation.run options store).2 (contents.run options operation).2
    (drawn ++ operation.fresh?.toList) := reached.run short fresh
  rw [ran] at next
  exact ⟨(reached.answer short fresh).1.trans (congrArg Prod.fst ran), next⟩

/-- What succeeds in the store succeeds over the contents. -/
theorem retrace (reached : Reached store contents drawn) {operation : Operation}
    (short : operation.Short) (fresh : ∀ id, operation.fresh? = some id → id ∉ drawn)
    {outcome : Outcome} (succeeded : (operation.run options store).1 = .ok outcome) :
    ∃ after, contents.run options operation = (.ok outcome, after) ∧
    Reached (operation.run options store).2 after (drawn ++ operation.fresh?.toList) :=
  ⟨_, Prod.ext ((reached.answer short fresh).1.symm.trans succeeded) rfl, reached.run short fresh⟩

end Reached

/-- An operation draws its identifier before those of the operations after it. -/
theorem drawn_cons (drawn : List String) (operation : Operation) (rest : List Operation) :
    drawn ++ (operation :: rest).filterMap Operation.fresh? =
      (drawn ++ operation.fresh?.toList) ++ rest.filterMap Operation.fresh? := by
  rw [List.filterMap_cons]
  cases operation.fresh? <;> simp

theorem unused_of_nodup {drawn later : List String} {operation : Operation}
    (distinct : ((drawn ++ operation.fresh?.toList) ++ later).Nodup) :
    ∀ id, operation.fresh? = some id → id ∉ drawn := by
  intro id drew held
  have apart := (List.nodup_append.1 (List.nodup_append.1 distinct).1).2.2
  exact apart id held id (by simp [drew]) rfl

namespace Reached

variable {drawn : List String} {options : StoreOptions}

theorem runAll (reached : Reached store contents drawn)
    {operations : List Operation} (short : ∀ operation ∈ operations, operation.Short)
    (fresh : (drawn ++ operations.filterMap Operation.fresh?).Nodup) :
    Reached (Operation.runAll options store operations) (contents.runAll options operations)
      (drawn ++ operations.filterMap Operation.fresh?) := by
  induction operations generalizing store contents drawn with
  | nil => simpa [Operation.runAll, Contents.runAll] using reached
  | cons operation rest ih =>
    rw [drawn_cons] at fresh ⊢
    have first := short operation List.mem_cons_self
    exact ih (reached.run first (unused_of_nodup fresh))
      (fun other held => short other (List.mem_cons_of_mem _ held)) fresh

end Reached

/-- A run from an empty store is a run of its contents. -/
theorem Admissible.reached {operations : List Operation} (admissible : Admissible operations)
    (options : StoreOptions) :
    Reached (Operation.runAll options ∅ operations) (Contents.runAll options ∅ operations)
      (operations.filterMap Operation.fresh?) :=
  Reached.empty.runAll admissible.short (by simpa using admissible.fresh)

/-- A run that goes on with an operation is a run so far,
and the operation draws nothing that was drawn in it. -/
theorem Admissible.before {before after : List Operation} {operation : Operation}
    (admissible : Admissible (before ++ operation :: after)) :
    Admissible before ∧ operation.Short ∧
    ∀ id, operation.fresh? = some id → id ∉ before.filterMap Operation.fresh? := by
  have fresh := admissible.fresh
  rw [List.filterMap_append, List.nodup_append] at fresh
  refine ⟨⟨fun other held => admissible.short other (List.mem_append_left _ held), fresh.1⟩,
    admissible.short operation (by simp), ?_⟩
  intro id drew held
  exact fresh.2.2 id held id (List.mem_filterMap.2 ⟨operation, List.mem_cons_self, drew⟩) rfl

end TableCatalog
