import TableCatalog.Proofs.CascadingDrops

/-! Which tuples of values are one partition. A key does not tell a separator from a slash inside a
value, so two tuples are told apart if and only if they differ once their values are split at
slashes; and then they are added, read, listed and dropped without regard to each other. -/

namespace TableCatalog

open Region

/-- What stands between the slashes, in all values of a tuple. -/
def Request.pieces (values : List String) : List (List Char) :=
  values.flatMap fun value => value.toList.splitOn '/'

namespace Request

variable {first second values : List String}

theorem pieces_ne_nil (some : values ≠ []) : pieces values ≠ [] := by
  cases values with
  | nil => exact absurd rfl some
  | cons value rest =>
    rw [pieces, List.flatMap_cons]
    exact List.append_ne_nil_of_left_ne_nil (List.splitOn_ne_nil '/' value.toList) _

theorem splitOn_joinValues (some : values ≠ []) :
    (joinValues values).toList.splitOn '/' = pieces values := by
  rw [joinValues, String.toList_intercalate]
  show List.splitOn '/' (['/'].intercalate (values.map String.toList)) = _
  induction values with
  | nil => exact absurd rfl some
  | cons value rest ih =>
    cases rest with
    | nil => simp [pieces]
    | cons next rest =>
      have tail := ih (List.cons_ne_nil _ _)
      simp only [List.map_cons] at tail ⊢
      rw [List.intercalate_cons_cons, List.append_assoc, List.singleton_append,
        List.splitOn_append_cons_self, tail]
      rfl

theorem ne_nil_of_joinValues (keyed : joinValues values ≠ "") : values ≠ [] := by
  rintro rfl
  exact keyed rfl

/-- Tuples of which one has a key share it if and only if they have the same pieces. -/
theorem joinValues_eq_iff (keyed : joinValues second ≠ "") :
    joinValues first = joinValues second ↔ pieces first = pieces second := by
  have some := ne_nil_of_joinValues keyed
  constructor
  · intro same
    have other := ne_nil_of_joinValues (same ▸ keyed)
    rw [← splitOn_joinValues other, ← splitOn_joinValues some, same]
  · intro same
    -- The tuple of no values has no pieces, and its key is that of one empty value.
    have other : first ≠ [] := by
      rintro rfl
      exact pieces_ne_nil some same.symm
    have split : (joinValues first).toList.splitOn '/' =
        (joinValues second).toList.splitOn '/' := by
      rw [splitOn_joinValues other, splitOn_joinValues some, same]
    have joined := congrArg ['/'].intercalate split
    rw [List.intercalate_splitOn, List.intercalate_splitOn] at joined
    exact String.toList_inj.1 joined

theorem pieces_of_plain (plain : ∀ value ∈ values, '/' ∉ value.toList) :
    pieces values = values.map String.toList := by
  induction values with
  | nil => rfl
  | cons value rest ih =>
    have whole : value.toList.splitOn '/' = [value.toList] :=
      List.splitOn_eq_singleton (plain value List.mem_cons_self)
    rw [pieces, List.flatMap_cons, whole, List.map_cons,
      ← ih fun other held => plain other (List.mem_cons_of_mem _ held)]
    rfl

theorem partitionKeys_single (keyed : joinValues values ≠ "") :
    partitionKeys [values] = .ok [joinValues values] := by
  have key : partitionKey values = .ok (joinValues values) := partitionKey_eq_ok.2 ⟨rfl, keyed⟩
  simp only [partitionKeys, mapM_cons, key]
  rfl

end Request

/-- A partition that the table meant holds. -/
def Stored (store : Store) (catalog : String) (db table : Ident) (record : Partition) : Prop :=
  ∃ owner id key bytes, LiveTable store catalog db table owner id ∧
    store.get? ((Level.database catalog owner).child id) key = some bytes ∧
    Wire.read? bytes = some record

/-- Two partitions of a table are read as themselves, and
the second is listed alone and outlasts the first. -/
structure ToldApart (options : StoreOptions) (store : Store)
    (catalog : String) (db table : Ident) (first second : Partition) : Prop where
  read : ∀ record ∈ [first, second], ∃ shown,
    (Operation.run options store (.getPartition catalog db table record.values [])).1 =
      .ok (.partition shown) ∧
    shown.values = record.values
  listed : ∀ listing : PartitionListing, listing.filter = [second.values] → ∃ attached,
    (Operation.run options store (.listPartitions catalog db table listing)).1 =
      .ok (.partitions [{ Projectable.project second.fillLocation listing.shown listing.hidden with
        table := attached }])
  dropped : let drop := Operation.dropPartition catalog db table first.values
    (drop.run options store).1 = .ok .done ∧
    ∃ shown, (Operation.run options (drop.run options store).2
      (.getPartition catalog db table second.values [])).1 = .ok (.partition shown) ∧
      shown.values = second.values

/-- Both partitions are added, one after the other, and are told apart from then on. -/
def BothKept (options : StoreOptions) (store : Store) (catalog : String)
    (db table : Ident) (first second : Partition) (firstId secondId : String) : Prop :=
  let add := Operation.addPartition catalog db table first firstId
  let addOther := Operation.addPartition catalog db table second secondId
  ∃ made other, (add.run options store).1 = .ok (.partition made) ∧ made.values = first.values ∧
    (addOther.run options (add.run options store).2).1 = .ok (.partition other) ∧
    other.values = second.values ∧
    ToldApart options (addOther.run options (add.run options store).2).2 catalog db table made other

/-- The pieces of its values are what a partition goes by in its table. -/
structure KeptByPieces (options : StoreOptions) (before : List Operation)
    (catalog : String) (db table : Ident) : Prop where
  apart : ∀ first second firstId secondId,
    let add := Operation.addPartition catalog db table first firstId
    let addOther := Operation.addPartition catalog db table second secondId
    Admissible (before ++ [add, addOther]) → ¬ add.Malformed → ¬ addOther.Malformed →
    (∃ owner id, LiveTable (Operation.runAll options ∅ before) catalog db table owner id) →
    (BothKept options (Operation.runAll options ∅ before) catalog
        db table first second firstId secondId ↔
      Request.pieces first.values ≠ Request.pieces second.values ∧
      ∀ kept, Stored (Operation.runAll options ∅ before) catalog db table kept →
        Request.pieces kept.values ≠ Request.pieces first.values ∧
        Request.pieces kept.values ≠ Request.pieces second.values)
  refused : ∀ record fresh, let add := Operation.addPartition catalog db table record fresh
    Admissible (before ++ [add]) → ¬ add.Malformed →
    (Fails (add.run options (Operation.runAll options ∅ before)).1 .alreadyExists ↔
      ∃ kept, Stored (Operation.runAll options ∅ before) catalog db table kept ∧
      Request.pieces kept.values = Request.pieces record.values)
  dropped : ∀ drop tuples outcome, Admissible (before ++ [drop]) →
    drop.tuples? = some (catalog, db, table, tuples) →
    (drop.run options (Operation.runAll options ∅ before)).1 = .ok outcome →
    ∀ kept, Stored (Operation.runAll options ∅ (before ++ [drop])) catalog db table kept ↔
      Stored (Operation.runAll options ∅ before) catalog db table kept ∧
      ¬ ∃ values ∈ tuples, Request.pieces values = Request.pieces kept.values

section Contents

variable {store : Store} {contents after : Contents} {drawn : List String} {options : StoreOptions}
  {catalog : String} {db table : Ident} {values : List String} {record : Partition} {fresh : String}

namespace Contents

/-- The table that the identities mean has this record and these partitions. -/
structure Shelves (contents : Contents) (catalog : String) (db table : Ident)
    (owner : Table) (rows : SortedMap Bytes Partition) : Prop where
  formed : catalog ≠ "" ∧ ¬ db.Blank ∧ ¬ table.Blank
  found : ∃ found, contents.scope catalog db table = .ok found ∧
    found.node.record = owner ∧ (found.node.shelf.getD {}).rows = rows

namespace Shelves

variable {owner : Table} {rows : SortedMap Bytes Partition}
  (shelves : contents.Shelves catalog db table owner rows)
include shelves

theorem add (keyed : Request.joinValues record.values ≠ "")
    (free : rows.find? (Bytes.ofText (Request.joinValues record.values)) = none)
    (fill : Bool) (fresh : String) :
    ∃ made after, contents.addPartition fill catalog db table record fresh = .ok (made, after) ∧
      made.values = record.values ∧
      after.Shelves catalog db table owner
        (rows.insert (Bytes.ofText (Request.joinValues record.values)) made) := by
  obtain ⟨formed, found, here, rfl, rfl⟩ := shelves
  obtain ⟨later, there, changed⟩ := table_setShelf here ⟨(found.node.shelf.getD {}).count + 1,
    (found.node.shelf.getD {}).rows.insert (Bytes.ofText (Request.joinValues record.values))
      (kept fill record fresh ((found.node.shelf.getD {}).count + 1))⟩
  refine ⟨_, _, addPartition_eq_ok.2 ⟨formed, keyed, found, here, free, rfl, rfl⟩,
    ?_, formed, later, there, ?_, ?_⟩
  · obtain ⟨location, same⟩ := kept_eq fill record fresh ((found.node.shelf.getD {}).count + 1)
    rw [same]
  · rw [changed]
  · rw [changed]
    rfl

theorem get (keyed : Request.joinValues values ≠ "")
    (row : rows.find? (Bytes.ofText (Request.joinValues values)) = some record)
    (shown : List String) :
    contents.getPartition catalog db table values shown =
      .ok (shownPartition record owner shown) := by
  obtain ⟨formed, found, here, rfl, rfl⟩ := shelves
  exact getPartition_eq_ok.2 ⟨formed, keyed, found, here, record, row, rfl⟩

theorem list (keyed : Request.joinValues values ≠ "")
    (row : rows.find? (Bytes.ofText (Request.joinValues values)) = some record)
    {listing : PartitionListing} (filter : listing.filter = [values]) :
    ∃ attached, contents.findPartitions catalog db table listing =
      .ok [{ Projectable.project record.fillLocation listing.shown listing.hidden with
        table := attached }] := by
  obtain ⟨formed, found, here, rfl, rfl⟩ := shelves
  have keys : Request.partitionKeys listing.filter = .ok [Request.joinValues values] :=
    filter ▸ Request.partitionKeys_single keyed
  refine ⟨if admits listing.shown listing.hidden tablePath then some found.node.record else none,
    findPartitions_eq_ok.2 ⟨formed, _, keys, found, here, ?_⟩⟩
  have only : picked (found.node.shelf.getD {}).rows [Request.joinValues values] = [record] := by
    simp only [picked, List.isEmpty_cons, Bool.false_eq_true,
      if_false, List.filterMap_cons, row, List.filterMap_nil]
  rw [only]
  rfl

theorem drop (keyed : Request.joinValues values ≠ "")
    (row : rows.find? (Bytes.ofText (Request.joinValues values)) = some record) :
    ∃ after, contents.dropPartitions catalog db table [values] = .ok (1, after) ∧
      after.Shelves catalog db table owner (rows.removeWhere fun key =>
        [Bytes.ofText (Request.joinValues values)].contains key) := by
  obtain ⟨formed, found, here, rfl, rfl⟩ := shelves
  cases opened : found.node.shelf with
  | none =>
    rw [opened] at row
    cases row
  | some shelf =>
    rw [opened, Option.getD_some] at row
    obtain ⟨later, there, changed⟩ := table_setShelf here
      ⟨shelf.count, shelf.rows.removeWhere fun key =>
        [Bytes.ofText (Request.joinValues values)].contains key⟩
    refine ⟨_, dropPartitions_eq_ok.2 ⟨formed, _, Request.partitionKeys_single keyed, rfl,
      .inr ⟨List.cons_ne_nil _ _, found, shelf, here, opened, fun key held => ?_, rfl⟩⟩,
      formed, later, there, ?_, ?_⟩
    · rw [List.mem_singleton.1 held, row]
      rfl
    · rw [changed]
    · rw [changed]
      rfl

end Shelves

/-- A drop leaves the rows that none of its tuples has the key of. -/
theorem dropPartitions_rows {tuples : List (List String)} {count : Nat}
    (dropped : contents.dropPartitions catalog db table tuples = .ok (count, after))
    (key : String) (record : Partition) :
    (∃ found, after.scope catalog db table = .ok found ∧ found.node.row? key = some record) ↔
      (∃ found, contents.scope catalog db table = .ok found ∧ found.node.row? key = some record) ∧
      ¬ ∃ values ∈ tuples, Request.joinValues values = key := by
  obtain ⟨-, keys, joined, -, left⟩ := dropPartitions_eq_ok.1 dropped
  rw [← (Request.partitionKeys_ok joined).2 key]
  obtain ⟨rfl, rfl⟩ | ⟨-, found, shelf, here, opened, -, rfl⟩ := left
  · simp
  · obtain ⟨later, there, changed⟩ := table_setShelf here ⟨shelf.count,
      shelf.rows.removeWhere fun row => (keys.map Bytes.ofText).contains row⟩
    have listed : (keys.map Bytes.ofText).contains (Bytes.ofText key) = true ↔ key ∈ keys := by
      simp [Bytes.ofText_inj]
    have row : later.node.row? key = if key ∈ keys then none else found.node.row? key := by
      rw [TableNode.row?, TableNode.row?, changed, opened]
      simp only [Option.getD_some, SortedMap.find?_removeWhere, listed]
    constructor
    · rintro ⟨other, stood, held⟩
      obtain rfl := Except.ok.inj (there.symm.trans stood)
      rw [row] at held
      split at held
      · cases held
      next kept => exact ⟨⟨found, here, held⟩, kept⟩
    · rintro ⟨⟨other, stood, held⟩, kept⟩
      obtain rfl := Except.ok.inj (here.symm.trans stood)
      exact ⟨later, there, by rw [row, if_neg kept, held]⟩

theorem dropPartitions_of_run {operation : Operation} {tuples : List (List String)}
    {outcome : Outcome} (asked : operation.tuples? = some (catalog, db, table, tuples))
    (ran : contents.run options operation = (.ok outcome, after)) :
    ∃ count, contents.dropPartitions catalog db table tuples = .ok (count, after) := by
  cases operation with
  | dropPartition | dropPartitions =>
    cases asked
    obtain ⟨count, done, -⟩ := change_eq_ok.1 ran
    exact ⟨count, done⟩
  | _ => cases asked

end Contents

namespace Holds

variable (holds : Holds store contents) (sound : contents.Sound)
  (short : Bytes.Short catalog) (tableShort : table.Short)
include holds sound short tableShort

theorem stored_iff : Stored store catalog db table record ↔
    ∃ found, contents.scope catalog db table = .ok found ∧
    found.node.row? (Request.joinValues record.values) = some record := by
  constructor
  · rintro ⟨owner, id, key, bytes, live, row, read⟩
    obtain ⟨found, here, rfl, rfl⟩ := (holds.liveTable_iff sound short _).1 live
    obtain ⟨shows, region⟩ := holds.found_shelf sound short tableShort here
    rw [shows.shelf_row region] at row
    obtain ⟨kept, held, rfl⟩ := Option.map_eq_some_iff.1 row
    obtain ⟨rfl, -, fits⟩ := (sound.table here).2.2.shelf.rows key kept held
    have same := Option.some.inj (fits.readable.read?.symm.trans read)
    exact ⟨found, here, same ▸ held⟩
  · rintro ⟨found, here, held⟩
    obtain ⟨shows, region⟩ := holds.found_shelf sound short tableShort here
    obtain ⟨-, -, fits⟩ := (sound.table here).2.2.shelf.rows _ record held
    have row : store.get? ((Level.database catalog found.db.id).child found.id)
          (Bytes.ofText (Request.joinValues record.values)) =
        some (Wire.Message.encode record) := by
      rw [shows.shelf_row region]
      exact congrArg (Option.map Wire.Message.encode) held
    exact ⟨_, _, _, _, (holds.liveTable_iff sound short _).2 ⟨found, here, rfl, rfl⟩,
      row, fits.readable.read?⟩

theorem livePartition_iff_stored (keyed : Request.joinValues values ≠ "") :
    LivePartition store catalog db table values ↔ ∃ kept,
    Stored store catalog db table kept ∧ Request.pieces kept.values = Request.pieces values := by
  rw [holds.livePartition_iff sound short tableShort]
  constructor
  · rintro ⟨found, here, held⟩
    obtain ⟨kept, row⟩ := Option.isSome_iff_exists.1 held
    have same := Bytes.ofText_injective ((sound.table here).2.2.shelf.rows _ kept row).1
    exact ⟨kept, (holds.stored_iff sound short tableShort).2 ⟨found, here, same ▸ row⟩,
      (Request.joinValues_eq_iff keyed).1 same.symm⟩
  · rintro ⟨kept, stored, same⟩
    obtain ⟨found, here, row⟩ := (holds.stored_iff sound short tableShort).1 stored
    rw [(Request.joinValues_eq_iff keyed).2 same] at row
    exact ⟨found, here, Option.isSome_iff_exists.2 ⟨kept, row⟩⟩

end Holds

theorem Contents.values_shownPartition (record : Partition) (owner : Table) :
    (shownPartition record owner []).values = record.values := by
  show record.fillLocation.values = record.values
  unfold Partition.fillLocation
  split
  · split <;> rfl
  · rfl

namespace Reached

section Rows

variable (reached : Reached store contents drawn) {owner : Table}
  {rows : SortedMap Bytes Partition} (shelves : contents.Shelves catalog db table owner rows)
include reached shelves

theorem free_iff_not_live (short : Bytes.Short catalog) (tableShort : table.Short) :
    rows.find? (Bytes.ofText (Request.joinValues values)) = none ↔
    ¬ LivePartition store catalog db table values := by
  obtain ⟨-, found, here, -, rfl⟩ := shelves
  rw [reached.livePartition_found short tableShort here, Option.not_isSome_iff_eq_none]

theorem free_iff_not_stored (short : Bytes.Short catalog) (tableShort : table.Short)
    (keyed : Request.joinValues values ≠ "") :
    rows.find? (Bytes.ofText (Request.joinValues values)) = none ↔
      ∀ kept, Stored store catalog db table kept →
      Request.pieces kept.values ≠ Request.pieces values := by
  rw [reached.free_iff_not_live shelves short tableShort,
    reached.holds.livePartition_iff_stored reached.sound short tableShort keyed]
  simp only [not_exists, not_and, ne_eq]

theorem told_apart {first second : Partition}
    (short : (Operation.getPartition catalog db table [] []).Short)
    (firstKeyed : Request.joinValues first.values ≠ "")
    (secondKeyed : Request.joinValues second.values ≠ "")
    (apart : Request.joinValues first.values ≠ Request.joinValues second.values)
    (one : rows.find? (Bytes.ofText (Request.joinValues first.values)) = some first)
    (other : rows.find? (Bytes.ofText (Request.joinValues second.values)) = some second) :
    ToldApart options store catalog db table first second where
  read record held := by
    have answer : ∃ shown, contents.getPartition catalog db table record.values [] = .ok shown ∧
        shown.values = record.values := by
      rcases List.mem_cons.1 held with rfl | held
      · exact ⟨_, shelves.get firstKeyed one [], Contents.values_shownPartition _ _⟩
      · obtain rfl := List.mem_singleton.1 held
        exact ⟨_, shelves.get secondKeyed other [], Contents.values_shownPartition _ _⟩
    obtain ⟨shown, found, values⟩ := answer
    refine ⟨shown, ?_, values⟩
    rw [reached.answer_quiet (.getPartition catalog db table record.values []) short rfl]
    exact congrArg (Except.map Outcome.partition) found
  listed listing filter := by
    obtain ⟨attached, found⟩ := shelves.list secondKeyed other filter
    refine ⟨attached, ?_⟩
    rw [reached.answer_quiet (.listPartitions catalog db table listing) short rfl]
    exact congrArg (Except.map Outcome.partitions) found
  dropped := by
    obtain ⟨after, done, left⟩ := shelves.drop firstKeyed one
    have ran : contents.run options (.dropPartition catalog db table first.values) =
      (.ok .done, after) := Contents.change_eq_ok.2 ⟨_, done, rfl⟩
    have dropShort : (Operation.dropPartition catalog db table first.values).Short := short
    obtain ⟨answered, next⟩ :=
      reached.follow options dropShort (fun _ impossible => nomatch impossible) ran
    refine ⟨answered, _, ?_, Contents.values_shownPartition second owner⟩
    rw [next.answer_quiet (.getPartition catalog db table second.values []) short rfl]
    refine congrArg (Except.map Outcome.partition) (left.get secondKeyed ?_ [])
    rw [SortedMap.find?_removeWhere, if_neg, other]
    simpa [Bytes.ofText_inj] using Ne.symm apart

variable (short : (Operation.addPartition catalog db table record fresh).Short)
  (unused : ∀ id, (Operation.addPartition catalog db table record fresh).fresh? = some id →
    id ∉ drawn)
include short unused

theorem adds (options : StoreOptions) (keyed : Request.joinValues record.values ≠ "")
    (free : rows.find? (Bytes.ofText (Request.joinValues record.values)) = none) :
    ∃ made after, (Operation.run options store (.addPartition catalog db table record fresh)).1 =
        .ok (.partition made) ∧ made.values = record.values ∧
      Reached (Operation.run options store (.addPartition catalog db table record fresh)).2 after
        (drawn ++ [fresh]) ∧
      after.Shelves catalog db table owner
        (rows.insert (Bytes.ofText (Request.joinValues record.values)) made) := by
  obtain ⟨made, after, done, values, left⟩ := shelves.add keyed free options.fillLocation fresh
  obtain ⟨answered, next⟩ :=
    reached.follow options short unused (Contents.change_eq_ok.2 ⟨made, done, rfl⟩)
  exact ⟨made, after, answered, values, next, left⟩

theorem free_of_added {outcome : Outcome}
    (added : (Operation.run options store (.addPartition catalog db table record fresh)).1 =
        .ok outcome) :
    rows.find? (Bytes.ofText (Request.joinValues record.values)) = none :=
  (reached.free_iff_not_live shelves short.1 short.2.2.1).2
    ((reached.judged short unused options).ok_iff.1 ⟨_, added⟩).2.2

end Rows

/-- Two partitions are both kept if and only if their keys differ and are free. -/
theorem bothKept_iff (reached : Reached store contents drawn) {owner : Table}
    {rows : SortedMap Bytes Partition} (shelves : contents.Shelves catalog db table owner rows)
    {first second : Partition} {firstId secondId : String}
    (firstShort : (Operation.addPartition catalog db table first firstId).Short)
    (firstUnused : firstId ∉ drawn)
    (secondShort : (Operation.addPartition catalog db table second secondId).Short)
    (secondUnused : secondId ∉ drawn ++ [firstId])
    (firstKeyed : Request.joinValues first.values ≠ "")
    (secondKeyed : Request.joinValues second.values ≠ "") :
    BothKept options store catalog db table first second firstId secondId ↔
      Request.joinValues first.values ≠ Request.joinValues second.values ∧
      rows.find? (Bytes.ofText (Request.joinValues first.values)) = none ∧
      rows.find? (Bytes.ofText (Request.joinValues second.values)) = none := by
  have drew (id : String) (drawn : some firstId = some id) : id ∉ _ :=
    Option.some.inj drawn ▸ firstUnused
  have drewOther (id : String) (drawn : some secondId = some id) : id ∉ _ :=
    Option.some.inj drawn ▸ secondUnused
  constructor
  · rintro ⟨made, other, added, -, addedOther, -⟩
    -- What was added tells that its key was free, the
    -- second time also of the partition added first.
    have free := reached.free_of_added shelves firstShort drew added
    obtain ⟨_, after, -, -, next, grown⟩ :=
      reached.adds shelves firstShort drew options firstKeyed free
    have freeOther := next.free_of_added grown secondShort drewOther addedOther
    rw [SortedMap.find?_insert] at freeOther
    split at freeOther
    · cases freeOther
    next apart => exact ⟨fun same => apart (congrArg Bytes.ofText same.symm), free, freeOther⟩
  · rintro ⟨apart, free, freeOther⟩
    obtain ⟨made, after, added, values, next, grown⟩ :=
      reached.adds shelves firstShort drew options firstKeyed free
    have distinct : Bytes.ofText (Request.joinValues second.values) ≠
        Bytes.ofText (Request.joinValues first.values) :=
      mt Bytes.ofText_injective (Ne.symm apart)
    have stillFree : (rows.insert (Bytes.ofText (Request.joinValues first.values)) made).find?
        (Bytes.ofText (Request.joinValues second.values)) = none := by
      rw [SortedMap.find?_insert, if_neg distinct, freeOther]
    obtain ⟨other, last, addedOther, otherValues, final, full⟩ :=
      next.adds grown secondShort drewOther options secondKeyed stillFree
    refine ⟨made, other, added, values, addedOther, otherValues,
      final.told_apart full ?_ ?_ ?_ ?_ ?_ ?_⟩
    · exact ⟨firstShort.1, firstShort.2.1, firstShort.2.2.1⟩
    · rwa [values]
    · rwa [otherValues]
    · rwa [values, otherValues]
    · rw [values, SortedMap.find?_insert, if_neg (Ne.symm distinct),
        SortedMap.find?_insert, if_pos rfl]
    · rw [otherValues, SortedMap.find?_insert, if_pos rfl]

end Reached

end Contents

/-- Whatever a run did before, the partitions of a table are told apart by the pieces of their
values and by nothing else. -/
theorem partitions_kept_by_pieces (options : StoreOptions) (before : List Operation)
    (catalog : String) (db table : Ident) :
    KeptByPieces options before catalog db table where
  apart := by
    rintro first second firstId secondId add addOther admissible formed otherFormed ⟨_, _, live⟩
    obtain ⟨begun, short, unused⟩ := admissible.before
    obtain ⟨otherShort, otherUnused⟩ := admissible.afterwards
    have reached := begun.reached options
    obtain ⟨found, here, -⟩ := (reached.holds.liveTable_iff reached.sound short.1 _).1 live
    obtain ⟨named, keyed⟩ := not_or.1 formed
    have otherKeyed := (not_or.1 otherFormed).2
    have shelves : Contents.Shelves _ catalog db table found.node.record
        (found.node.shelf.getD {}).rows :=
      ⟨by simpa only [not_or] using named, found, here, rfl, rfl⟩
    have free {values : List String} (keyed : Request.joinValues values ≠ "") :=
      reached.free_iff_not_stored shelves short.1 short.2.2.1 keyed
    rw [reached.bothKept_iff shelves short (unused _ rfl) otherShort
        (otherUnused _ rfl) keyed otherKeyed, free keyed, free otherKeyed, ne_eq,
      Request.joinValues_eq_iff otherKeyed]
    refine and_congr_right fun _ => ?_
    exact ⟨fun ⟨one, other⟩ kept stored => ⟨one kept stored, other kept stored⟩, fun both =>
      ⟨fun kept stored => (both kept stored).1, fun kept stored => (both kept stored).2⟩⟩
  refused := by
    intro record fresh add admissible formed
    obtain ⟨begun, short, unused⟩ := admissible.before
    have reached := begun.reached options
    rw [(reached.judged short unused options).alreadyExists_iff,
      ← reached.holds.livePartition_iff_stored reached.sound short.1 short.2.2.1
        (not_or.1 formed).2]
    constructor
    · exact fun taken => taken.2.2
    · exact fun taken =>
        ⟨formed, not_not_intro (taken.imp fun _ ⟨id, live, _⟩ => ⟨id, live⟩), taken⟩
  dropped drop tuples outcome admissible asked succeeded kept := by
    obtain ⟨begun, short, -⟩ := admissible.before
    have reached := begun.reached options
    obtain ⟨quiet, catalogShort, tableShort⟩ := short.of_tuples asked
    obtain ⟨after, ran, next⟩ :=
      reached.retrace short (fun _ drew => nomatch quiet.symm.trans drew) succeeded
    obtain ⟨count, done⟩ := Contents.dropPartitions_of_run asked ran
    have keyed {values : List String} (held : values ∈ tuples) :
        Request.joinValues values ≠ "" := by
      obtain ⟨-, keys, joined, -⟩ := Contents.dropPartitions_eq_ok.1 done
      exact (Request.partitionKeys_ok joined).1 values held
    have left : Operation.runAll options ∅ (before ++ [drop]) =
        (drop.run options (Operation.runAll options ∅ before)).2 :=
      Operation.runAll_append options ∅ before [drop]
    rw [left, next.holds.stored_iff next.sound catalogShort tableShort,
      reached.holds.stored_iff reached.sound catalogShort tableShort,
      Contents.dropPartitions_rows done]
    refine and_congr_right fun _ =>
      not_congr (exists_congr fun values => and_congr_right fun held => ?_)
    rw [eq_comm, Request.joinValues_eq_iff (keyed held), eq_comm]

/-- A database with a table that has no partitions. -/
def unfilled : List Operation :=
  [.createDatabase "main" { ident := some { name := "sales" } } "D1",
    .createTable "main" { name := "sales" } { ident := some { name := "orders" } } "T1"]

theorem partitions_kept_by_pieces_months :
    BothKept {} (Operation.runAll {} ∅ unfilled) "main" { name := "sales" }
      { name := "orders" } { values := ["2024", "01"] } { values := ["2024", "02"] } "P1" "P2" := by
  have kept := partitions_kept_by_pieces {} unfilled "main" { name := "sales" } { name := "orders" }
  have formed (values : List String) (keyed : Request.joinValues values ≠ "") (fresh : String) :
      ¬ (Operation.addPartition "main" { name := "sales" } { name := "orders" }
        { values } fresh).Malformed := by
    rintro (impossible | impossible)
    · revert impossible
      simp [Ident.Blank]
    · exact keyed impossible
  have first := formed ["2024", "01"] (by decide) "P1"
  have second := formed ["2024", "02"] (by decide) "P2"
  refine (kept.apart _ _ _ _ (by decide +kernel) first second ⟨"D1", "T1", by decide +kernel⟩).2
    ⟨by decide, fun other stored => ⟨fun same => ?_, fun same => ?_⟩⟩
  · have taken := (kept.refused _ _ (by decide +kernel) first).2 ⟨other, stored, same⟩
    revert taken
    decide +kernel
  · have taken := (kept.refused _ _ (by decide +kernel) second).2 ⟨other, stored, same⟩
    revert taken
    decide +kernel

/-- Two tuples with one key. The second cannot be added beside the first, is read as the first, and
takes it away when it is dropped. -/
theorem slash_joins_tuples :
    let sales : Ident := { name := "sales" }
    let orders : Ident := { name := "orders" }
    let store := Operation.runAll {} ∅ unfilled
    let add := Operation.addPartition "main" sales orders { values := ["a", "b"] } "P1"
    let addOther := Operation.addPartition "main" sales orders { values := ["a/b"] } "P2"
    let drop := Operation.dropPartition "main" sales orders ["a/b"]
    (Admissible (unfilled ++ [add, addOther]) ∧ LiveTable store "main" sales orders "D1" "T1" ∧
      Fails (Operation.run {} store (.getPartition "main" sales orders ["a", "b"] [])).1 .notFound ∧
      Fails (Operation.run {} store (.getPartition "main" sales orders ["a/b"] [])).1 .notFound ∧
      (add.run {} store).1.isOk = true ∧
      Fails (addOther.run {} (add.run {} store).2).1 .alreadyExists ∧
      (Operation.run {} (add.run {} store).2 (.getPartition "main" sales orders
        ["a/b"] ["values"])).1 = .ok (.partition { values := ["a", "b"] }) ∧
      (drop.run {} (add.run {} store).2).1 = .ok .done ∧
      Fails (Operation.run {} (drop.run {} (add.run {} store).2).2
        (.getPartition "main" sales orders ["a", "b"] [])).1 .notFound) ∧
    ¬ BothKept {} store "main" sales orders { values := ["a", "b"] }
      { values := ["a/b"] } "P1" "P2" := by
  intro sales orders store add addOther drop
  have failed : Fails (addOther.run {} (add.run {} store).2).1 .alreadyExists := by decide +kernel
  refine ⟨by decide +kernel, ?_⟩
  rintro ⟨made, other, -, -, added, -⟩
  rw [show (addOther.run {} (add.run {} store).2).1 = .ok (.partition other) from added] at failed
  exact failed

end TableCatalog
