import TableCatalog.Catalog.Operation

/-! Listings hand out records while they go through a region or look up keys. Whatever becomes of
the records, these are the ones that a lookup finds all at once, and a listing that fails by itself
fails before the first of them. -/

namespace TableCatalog

open Region

variable {σ : Type} {store : Store} (listing : PartitionListing) (sink : Sink σ Partition)

/-- A visit of a region meets the records that can be read. -/
theorem forEachRecord_eq {α : Type} {m : Type → Type} [Monad m]
    [LawfulMonad m] [Wire.Message α] (region : Path) (visit : α → m Unit) :
    forEachRecord store region visit = (recordsIn store region).forM visit := by
  unfold forEachRecord recordsIn
  simp only [List.forM_eq_forM]
  induction store.scan region with
  | nil => rfl
  | cons row rest ih =>
    rw [List.forM_cons, List.filterMap_cons, ih, Wire.read?]
    cases (Wire.read row.2 : Except Wire.DecodeError α) with
    | ok record => rfl
    | error defect => exact pure_bind _ _

/-- The partitions that keys lead to. -/
def TableRef.partitionsUnder (store : Store) (found : TableRef) (keys : List String) :
    List Partition :=
  keys.filterMap fun key => (found.partition? store key).bind Wire.read?

/-- A key whose bytes are no record is passed over like one
that is missing: no other fault can arise. -/
theorem emitKey_eq (found : TableRef) (key : String) :
    emitKey store found listing sink key =
      match ((found.partition? store key).bind Wire.read? : Option Partition) with
      | some record => emitPartition listing sink record
      | none => pure () := by
  unfold emitKey TableRef.readPartition
  cases found.partition? store key with
  | none => rfl
  | some bytes =>
    simp only [Option.bind_some, Wire.decode, Wire.read?]
    cases (Wire.read bytes : Except Wire.DecodeError Partition) <;> rfl

theorem forM_emitKey (found : TableRef) (keys : List String) :
    keys.forM (emitKey store found listing sink) =
      (found.partitionsUnder store keys).forM (emitPartition listing sink) := by
  unfold TableRef.partitionsUnder
  simp only [List.forM_eq_forM]
  induction keys with
  | nil => rfl
  | cons key rest ih =>
    rw [List.forM_cons, ih, emitKey_eq, List.filterMap_cons]
    cases ((found.partition? store key).bind Wire.read? : Option Partition) with
    | none => exact pure_bind _ _
    | some record => rfl

/-- The partitions that a listing goes through. -/
theorem TableRef.scan_eq (found : TableRef) (keys : List String) :
    (if keys.isEmpty then
        if store.hasRegion found.partitions
          then forEachRecord store found.partitions (emitPartition listing sink) else return ()
      else keys.forM (emitKey store found listing sink)) =
    (if keys.isEmpty then if store.hasRegion found.partitions
      then recordsIn store found.partitions else []
      else found.partitionsUnder store keys).forM (emitPartition listing sink) := by
  rw [forM_emitKey, forEachRecord_eq]
  split
  · split <;> rfl
  · rfl

/-- Once the table is used up, partitions are handed out without one. -/
private theorem emit_detached (records : List Partition) :
    (records.forM (emitPartition listing sink)).run none =
      (records.forM fun record => sink { Projectable.project
          record.fillLocation listing.shown listing.hidden with table := none }) >>=
        fun _ => pure ((), none) := by
  simp only [List.forM_eq_forM]
  induction records with
  | nil => rfl
  | cons record rest ih =>
    rw [List.forM_cons, List.forM_cons, StateT.run_bind, bind_assoc]
    have first : (emitPartition listing sink record).run none =
        sink { Projectable.project record.fillLocation listing.shown listing.hidden with
          table := none } >>= fun _ => pure ((), none) := rfl
    rw [first, bind_assoc]
    simp only [pure_bind, ih]

/-- The table goes with the first partition that is handed out, whichever that is. -/
theorem emit_attached (records : List Partition) (attached : Option Table) :
    (records.forM (emitPartition listing sink)).run' attached =
      (attachToFirst attached (records.map fun record =>
        Projectable.project record.fillLocation listing.shown listing.hidden)).forM sink := by
  cases records with
  | nil => rfl
  | cons record rest =>
    have first : (emitPartition listing sink record).run attached =
        sink { Projectable.project record.fillLocation listing.shown listing.hidden with
          table := attached } >>= fun _ => pure ((), none) := rfl
    have later := emit_detached listing sink rest
    simp only [List.forM_eq_forM] at later ⊢
    rw [List.forM_cons, StateT.run'_eq, StateT.run_bind, first, bind_assoc]
    simp only [pure_bind, later, List.map_cons, attachToFirst,
      List.map_map, List.forM_cons, List.forM_map, map_bind, map_pure, Function.comp_def]
    exact congrArg (sink _ >>= ·) (funext fun _ => bind_pure _)

theorem listDatabases_eq (store : Store) (catalog : String) (listing : DatabaseListing)
    (sink : Sink σ Database) :
    listDatabases store catalog listing sink = sink.send (findDatabases store catalog listing) := by
  unfold listDatabases findDatabases
  cases Request.requireCatalog catalog with
  | error fault => rfl
  | ok =>
    cases openCatalog store catalog with
    | error fault =>
      by_cases absent : fault.kind = .notFound
      · simp only [absent]
        rfl
      · simp only [absent]
        rfl
    | ok level =>
      have met : (forEachRecord store level.byId fun record => sink (listing.apply record)) =
          ((recordsIn store level.byId).map listing.apply).forM sink := by
        rw [forEachRecord_eq]
        simp only [List.forM_eq_forM, List.forM_map]
      exact met

theorem listTables_eq (store : Store) (catalog : String) (db : Ident)
    (shown : List String) (sink : Sink σ Table) :
    listTables store catalog db shown sink = sink.send (findTables store catalog db shown) := by
  unfold listTables findTables
  cases Request.requireCatalog catalog with
  | error fault => rfl
  | ok =>
    cases Request.requireIdent .database db with
    | error fault => rfl
    | ok =>
      cases openDatabase store catalog db with
      | error fault => rfl
      | ok level =>
        have met : (forEachRecord store level.byId fun record =>
          sink (Projectable.project record shown [])) =
            ((recordsIn store level.byId).map fun record =>
              Projectable.project record shown []).forM sink := by
          rw [forEachRecord_eq]
          simp only [List.forM_eq_forM, List.forM_map]
        exact met

theorem listPartitions_eq (store : Store) (catalog : String)
    (db table : Ident) (listing : PartitionListing) (sink : Sink σ Partition) :
    listPartitions store catalog db table listing sink =
      sink.send (findPartitions store catalog db table listing) := by
  unfold listPartitions findPartitions
  cases Request.requireTable catalog db table with
  | error fault => rfl
  | ok =>
    cases Request.partitionKeys listing.filter with
    | error fault => rfl
    | ok keys =>
      cases openTable store catalog db table with
      | error fault => rfl
      | ok found =>
        have scanned (attached : Option Table) := emit_attached listing sink
          (if keys.isEmpty then if store.hasRegion found.partitions
            then recordsIn store found.partitions else []
            else found.partitionsUnder store keys) attached
        simp only [← found.scan_eq listing sink] at scanned
        cases admits listing.shown listing.hidden tablePath with
        | false => exact scanned none
        | true =>
          -- Only now that the table is found can its record be spoken of.
          show (some <$> liftM (found.read store) >>= fun attached => _) =
            sink.send (some <$> found.read store >>= fun attached => _)
          cases found.read store with
          | error fault => rfl
          | ok owner => exact scanned (some owner)

end TableCatalog
