import TableCatalog.Proofs.ListingLoops
import TableCatalog.Proofs.Listings
import TableCatalog.Proofs.LiveTables
import TableCatalog.Proofs.ProjectedLeaves

/-! Partitions are read in three ways: all of a table in the order of their keys, those that a
filter asks for, or one by its values. All three show the same records, with the table attached to
the first alone. What cannot be read is passed over in listings, and where it is asked for by
itself, it is told to be corrupt. -/

namespace TableCatalog

open Region

variable {store : Store} {found : TableRef} {catalog owner id : String}
  {db table : Ident} {record : Table}

/-- The partitions of a table that can be read, under their keys. -/
def TableRef.readable (store : Store) (found : TableRef) : SortedMap Bytes Partition where
  toList := if store.hasRegion found.partitions then (store.scan found.partitions).filterMap
    fun row => (Wire.read? row.2).map (row.1, ·) else []
  sorted := by
    split
    · refine List.pairwise_filterMap.2
        ((store.scan_sorted found.partitions).imp fun {row other} less => ?_)
      intro first read second readOther
      obtain ⟨_, -, rfl⟩ := Option.map_eq_some_iff.1 read
      obtain ⟨_, -, rfl⟩ := Option.map_eq_some_iff.1 readOther
      exact less
    · exact .nil

/-- What a listing shows of a partition, the table aside. -/
def PartitionListing.shows (listing : PartitionListing) (record : Partition) : Partition :=
  { Projectable.project record.fillLocation listing.shown listing.hidden with table := none }

/-- The table is to be shown. -/
def PartitionListing.Attaches (listing : PartitionListing) : Prop :=
  (listing.shown = [] ∨ "table" ∈ listing.shown) ∧ "table" ∉ listing.hidden

instance (listing : PartitionListing) : Decidable listing.Attaches :=
  inferInstanceAs (Decidable (_ ∧ _))

/-- How a listing of partitions ends, and what it sends. -/
def partitionsListed (store : Store) (catalog : String) (db table : Ident)
    (listing : PartitionListing) : Except Fault Unit × List Partition :=
  collected (listPartitions store catalog db table listing Sink.collect)

/-- A listing ends well and has sent these partitions, as it shows them and in their order. The
table is with the first and no other. -/
structure Emits (listing : PartitionListing) (owner : Table)
    (records : List Partition) (ran : Except Fault Unit × List Partition) : Prop where
  ended : ran.1 = .ok ()
  shown : ran.2.map (fun record => { record with table := none }) = records.map listing.shows
  attached : ∀ index record, ran.2[index]? = some record →
    record.table = if index = 0 ∧ listing.Attaches then some owner else none

/-- How the partitions of a table are read. -/
structure PartitionReads (store : Store) (catalog : String) (db table : Ident)
    (found : TableRef) (owner : Table) : Prop where
  whole : ∀ listing, listing.filter = [] →
    Emits listing owner ((found.readable store).toList.map (·.2))
      (partitionsListed store catalog db table listing)
  filtered : ∀ listing, listing.filter ≠ [] → "" ∉ keysOf listing.filter →
    Emits listing owner ((keysOf listing.filter).eraseDups.filterMap fun key =>
      (found.readable store).find? (Bytes.ofText key))
      (partitionsListed store catalog db table listing)
  single : ∀ values shown partition, Request.joinValues values ≠ "" →
    (getPartition store catalog db table values shown = .ok partition ↔
      partitionsListed store catalog db table ⟨[values], shown, []⟩ = (.ok (), [partition]))
  missing : ∀ values shown, Request.joinValues values ≠ "" →
    found.partition? store (Request.joinValues values) = none →
    (∃ what, getPartition store catalog db table values shown = .error (.absent what)) ∧
    partitionsListed store catalog db table ⟨[values], shown, []⟩ = (.ok (), [])
  undecodable : ∀ values shown bytes, Request.joinValues values ≠ "" →
    found.partition? store (Request.joinValues values) = some bytes →
    (Wire.read? bytes : Option Partition) = none →
    (∃ what, getPartition store catalog db table values shown = .error (.corruption what)) ∧
    partitionsListed store catalog db table ⟨[values], shown, []⟩ = (.ok (), [])

theorem TableRef.find?_readable (found : TableRef) (store : Store) (key : Bytes) :
    (found.readable store).find? key = if store.hasRegion found.partitions
      then (store.get? found.partitions key).bind Wire.read? else none := by
  ext partition
  rw [SortedMap.find?_eq_some_iff, readable]
  split
  · rw [Option.bind_eq_some_iff, List.mem_filterMap]
    constructor
    · rintro ⟨⟨other, bytes⟩, held, same⟩
      obtain ⟨_, read, same⟩ := Option.map_eq_some_iff.1 same
      cases same
      exact ⟨bytes, (Store.mem_scan ..).1 held, read⟩
    · rintro ⟨bytes, held, read⟩
      exact ⟨(key, bytes), (Store.mem_scan ..).2 held, by rw [read]; rfl⟩
  · exact iff_of_false List.not_mem_nil (Option.some_ne_none partition).symm

theorem TableRef.find?_readable_ofText (found : TableRef) (store : Store) (key : String) :
    (found.readable store).find? (Bytes.ofText key) =
      (found.partition? store key).bind Wire.read? := by
  rw [find?_readable, partition?]
  split <;> rfl

theorem TableRef.records_readable (found : TableRef) (store : Store) :
    (if store.hasRegion found.partitions then recordsIn store found.partitions else []) =
      (found.readable store).toList.map (·.2) := by
  unfold readable recordsIn
  split
  · rw [List.map_filterMap]
    apply List.filterMap_congr
    intro row _
    cases (Wire.read? row.2 : Option Partition) <;> rfl
  · rfl

theorem admits_iff (listing : PartitionListing) :
    admits listing.shown listing.hidden tablePath = true ↔ listing.Attaches := by
  simp [admits, PartitionListing.Attaches, tablePath]

/-- The table is shown under its own path only, so it is left out unless that is listed. -/
theorem project_table (record : Partition) {shown : List String}
    (withheld : admits shown [] tablePath = false) :
    (Projectable.project record shown []).table = none := by
  have listed : shown ≠ [] ∧ tablePath ∉ shown := by simpa [admits] using withheld
  have own : (Projectable.paths Partition).filter (fun path =>
    Covers (α := Partition) path Partition.Leaf.table) = [tablePath] := by decide
  have left : ¬ Admitted (α := Partition) shown [] Partition.Leaf.table := by
    rintro ⟨none | ⟨path, held, covers⟩, -⟩
    · exact listed.1 none
    · have itself : path ∈ [tablePath] := own ▸ List.mem_filter.2 ⟨covers.1, decide_eq_true covers⟩
      exact listed.2 (List.mem_singleton.1 itself ▸ held)
  exact (read_project record shown [] Partition.Leaf.table).trans (if_neg left)

/-- A partition that is shown by itself, with its table if that is shown. -/
theorem shown_alone (partition : Partition) (owner : Table) (shown : List String) :
    { Projectable.project partition.fillLocation shown [] with
      table := if admits shown [] tablePath then some owner else none } =
      Contents.shownPartition partition owner shown := by
  unfold Contents.shownPartition
  cases admitted : admits shown [] tablePath with
  | true => rfl
  | false =>
    have detached := project_table partition.fillLocation admitted
    generalize Projectable.project partition.fillLocation shown [] = record at detached
    cases record
    cases detached
    rfl

theorem attachToFirst_emits (listing : PartitionListing) (owner : Table)
    (records : List Partition) :
    Emits listing owner records (.ok (), attachToFirst
      (if admits listing.shown listing.hidden tablePath then some owner else none) (records.map
        fun record => Projectable.project record.fillLocation listing.shown listing.hidden)) := by
  cases records with
  | nil =>
    refine ⟨rfl, rfl, ?_⟩
    intro index record sent
    cases sent
  | cons first rest =>
    refine ⟨rfl, ?_, ?_⟩
    · simp only [List.map_cons, attachToFirst, List.map_map]
      rfl
    · intro index record sent
      cases index with
      | zero =>
        cases sent
        simp only [admits_iff, true_and]
      | succ index =>
        have later : record ∈ (rest.map fun record =>
          Projectable.project record.fillLocation listing.shown listing.hidden).map
            fun record => { record with table := none } := List.mem_of_getElem? sent
        obtain ⟨_, -, rfl⟩ := List.mem_map.1 later
        exact (if_neg fun first => Nat.succ_ne_zero index first.1).symm

namespace Opens

variable (opens : Opens store catalog db table found record)
include opens

theorem listed {listing : PartitionListing} (accepted : "" ∉ keysOf listing.filter) :
    partitionsListed store catalog db table listing = (.ok (),
      attachToFirst (if admits listing.shown listing.hidden tablePath then some record else none)
      ((Contents.picked (found.readable store) (keysOf listing.filter).eraseDups).map fun record =>
        Projectable.project record.fillLocation listing.shown listing.hidden)) := by
  have records : (if (keysOf listing.filter).eraseDups.isEmpty
    then if store.hasRegion found.partitions then recordsIn store found.partitions else []
      else (keysOf listing.filter).eraseDups.filterMap fun key =>
        (found.partition? store key).bind Wire.read?) =
      Contents.picked (found.readable store) (keysOf listing.filter).eraseDups := by
    simp only [Contents.picked, found.records_readable, found.find?_readable_ofText]
  have looked : findPartitions store catalog db table listing =
    .ok (attachToFirst (if admits listing.shown listing.hidden tablePath then some record else none)
      ((Contents.picked (found.readable store) (keysOf listing.filter).eraseDups).map fun record =>
        Projectable.project record.fillLocation listing.shown listing.hidden)) := by
    simp only [findPartitions, opens.formed, Request.partitionKeys_eq accepted,
      opens.opened, bind, Except.bind, records]
    cases admits listing.shown listing.hidden tablePath with
    | false => rfl
    | true =>
      rw [opens.read]
      rfl
  rw [partitionsListed, listPartitions_eq, looked]
  exact collected_send _

theorem got {values : List String} (keyed : Request.joinValues values ≠ "") (shown : List String) :
    getPartition store catalog db table values shown =
      match found.partition? store (Request.joinValues values) with
      | none => .error (.absent (partitionText db table (Request.joinValues values)))
      | some bytes =>
        (Wire.decode ("partition " ++ Request.joinValues values) bytes).map fun partition =>
          Contents.shownPartition partition record shown := by
  have key : Request.partitionKey values = .ok (Request.joinValues values) :=
    Request.partitionKey_eq_ok.2 ⟨rfl, keyed⟩
  simp only [getPartition, opens.formed, key, opens.opened, bind, Except.bind]
  cases found.partition? store (Request.joinValues values) with
  | none => rfl
  | some bytes =>
    dsimp only
    cases (Wire.decode ("partition " ++ Request.joinValues values) bytes : Except
        Fault Partition) with
    | error fault => rfl
    | ok partition =>
      simp only [Except.map, Contents.shownPartition, opens.read]
      split <;> rfl

theorem listed_single {values : List String} (keyed : Request.joinValues values ≠ "")
    (shown : List String) :
    partitionsListed store catalog db table ⟨[values], shown, []⟩ =
      (.ok (), (((found.partition? store (Request.joinValues values)).bind Wire.read?).map
        fun partition => Contents.shownPartition partition record shown).toList) := by
  have accepted : "" ∉ keysOf [values] := by simpa [keysOf] using keyed.symm
  have keys : (keysOf [values]).eraseDups = [Request.joinValues values] := rfl
  have picks : Contents.picked (found.readable store) [Request.joinValues values] =
      ((found.partition? store (Request.joinValues values)).bind Wire.read?).toList := by
    rw [← found.find?_readable_ofText, Contents.picked, List.isEmpty_cons,
      if_neg Bool.false_ne_true, List.filterMap_cons, List.filterMap_nil]
    cases (found.readable store).find? (Bytes.ofText (Request.joinValues values)) <;> rfl
  rw [opens.listed accepted, keys, picks]
  cases
    ((found.partition? store (Request.joinValues values)).bind Wire.read? : Option Partition) with
  | none => rfl
  | some partition =>
    exact congrArg (fun shown : Partition => (Except.ok (), [shown]))
      (shown_alone partition record shown)

theorem partitionReads : PartitionReads store catalog db table found record := by
  constructor
  case whole =>
    intro listing unfiltered
    rw [opens.listed (by rw [unfiltered]; exact List.not_mem_nil), unfiltered]
    exact attachToFirst_emits listing record _
  case filtered =>
    intro listing filters accepted
    obtain ⟨values, rest, filter⟩ := List.exists_cons_of_ne_nil filters
    have asked : (keysOf listing.filter).eraseDups.isEmpty = false := by
      rw [List.isEmpty_eq_false_iff_exists_mem]
      exact ⟨Request.joinValues values,
        List.mem_eraseDups.2 (by rw [filter]; exact List.mem_cons_self)⟩
    rw [opens.listed accepted, Contents.picked, asked]
    exact attachToFirst_emits listing record _
  case single =>
    intro values shown partition keyed
    rw [opens.got keyed, opens.listed_single keyed]
    cases found.partition? store (Request.joinValues values) with
    | none => simp
    | some bytes =>
      simp only [Option.bind_some, Wire.decode, Wire.read?]
      cases (Wire.read bytes : Except Wire.DecodeError Partition) <;>
        simp [Except.map, Except.toOption]
  case missing =>
    intro values shown keyed missing
    rw [opens.got keyed, opens.listed_single keyed, missing]
    exact ⟨⟨_, rfl⟩, rfl⟩
  case undecodable =>
    intro values shown bytes keyed stored defective
    rw [opens.got keyed, opens.listed_single keyed, stored, Option.bind_some, defective]
    refine ⟨?_, rfl⟩
    unfold Wire.read? at defective
    simp only [Wire.decode]
    cases read : (Wire.read bytes : Except Wire.DecodeError Partition) with
    | error defect => exact ⟨_, rfl⟩
    | ok partition =>
      rw [read] at defective
      cases defective

end Opens

/-- Whatever becomes of the bytes of its partitions, if anything, a live
table is read in agreement with itself. As long as nothing has become of
them, all of them are read, each under the key of its values. -/
theorem partition_reads_agree (options : StoreOptions)
    (operations : List Operation) (admissible : Admissible operations)
    (short : Bytes.Short catalog) (dbShort : db.Short) (tableShort : table.Short)
    (live : LiveTable (Operation.runAll options ∅ operations) catalog db table owner id) :
    ∃ record, getTable (Operation.runAll options ∅ operations) catalog db table = .ok record ∧
      (∀ key bytes, (Operation.runAll options ∅ operations).get?
          (tableRef catalog owner id).partitions key = some bytes →
        ∃ partition, Wire.read? bytes = some partition ∧
        key = Bytes.ofText (Request.joinValues partition.values) ∧
          ((tableRef catalog owner id).readable (Operation.runAll options ∅ operations)).find? key =
            some partition) ∧
      ∀ altered, (tableRef catalog owner id).Alters
          (Operation.runAll options ∅ operations) altered →
        PartitionReads altered catalog db table (tableRef catalog owner id) record := by
  obtain ⟨record, looked, opens⟩ := admissible.opens options short dbShort live
  refine ⟨record, looked, ?_, fun altered alters => (opens.altered alters).partitionReads⟩
  intro key bytes stored
  obtain ⟨there, partition, read, address⟩ :=
    (admissible.reached options).stored_readable short tableShort live stored
  refine ⟨partition, read, address, ?_⟩
  rw [TableRef.find?_readable, if_pos there, stored, Option.bind_some, read]

/-- The first of three partitions has become unreadable: it
is passed over, and the table goes with the second. -/
theorem partition_reads_agree_first_lost :
    let store := Operation.runAll {} ∅ threeDays
    let sales : Ident := { name := "sales" }
    let orders : Ident := { id := "2" }
    let damaged := store.put (tableRef "main" "1" "2").partitions (Bytes.ofText "1") [0x0f]
    (∃ record, getTable store "main" sales orders = .ok record ∧
      PartitionReads damaged "main" sales orders (tableRef "main" "1" "2") record) ∧
    (partitionsListed damaged "main" sales orders {}).2.map (fun partition =>
      (partition.values, partition.table.isSome)) = [(["2"], true), (["3"], false)] ∧
    (partitionsListed damaged "main" sales orders { filter := [["3"], ["1"], ["3"], ["2"]] }).2.map
        (fun partition => (partition.values, partition.table.isSome)) =
      [(["3"], true), (["2"], false)] := by
  intro store sales orders damaged
  refine ⟨?_, by decide +kernel, by decide +kernel⟩
  have live : LiveTable store "main" sales orders "1" "2" := by decide +kernel
  obtain ⟨record, looked, -, reads⟩ := partition_reads_agree {} threeDays
    (by decide +kernel) (by decide +kernel) (by decide +kernel) (by decide +kernel) live
  exact ⟨record, looked, reads damaged (.put _ store _ _)⟩

end TableCatalog
